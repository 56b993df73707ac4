import Paperwork.Yaml.Node
import Paperwork.Yaml.Plain

/-!
# Reading YAML text

The nodes of a document as a data tree: scalars have their values and keep their spelling, and an
alias is the tree of what it names. Nesting without end and too many aliases end in faulty leaves.
-/

namespace Paperwork.Yaml

/-- How trees of YAML texts are looked at. -/
def reading : Reading := ⟨false, true⟩

/-- The number of levels that a value may have. -/
def levels : Nat := 128

namespace Node

mutual

/-- What the anchors of a node stand for, outermost first. -/
def anchors : Node → List (Nat × Node)
  | scalar _ _ _ => []
  | reference _ => []
  | sequence _ items => anchorsOfItems items
  | mapping _ entries => anchorsOfEntries entries
  | anchored k n => (k, n) :: anchors n

def anchorsOfItems : List Node → List (Nat × Node)
  | [] => []
  | n :: rest => anchors n ++ anchorsOfItems rest

def anchorsOfEntries : List (Node × Node) → List (Nat × Node)
  | [] => []
  | (k, v) :: rest => anchors k ++ (anchors v ++ anchorsOfEntries rest)

end

mutual

/-- The number of marks that a node takes: one for a scalar or an alias, two around a collection. -/
def weight : Node → Nat
  | scalar _ _ _ => 1
  | reference _ => 1
  | sequence _ items => 2 + weightOfItems items
  | mapping _ entries => 2 + weightOfEntries entries
  | anchored _ n => weight n

def weightOfItems : List Node → Nat
  | [] => 0
  | n :: rest => weight n + weightOfItems rest

def weightOfEntries : List (Node × Node) → Nat
  | [] => 0
  | (k, v) :: rest => weight k + weight v + weightOfEntries rest

end

/-- The tree of a scalar. -/
def scalarTree (tag : Option Tag) (text : String) (plain : Bool) : Tree :=
  let (value, spelling) := scalarLeaf tag text plain
  .leaf value (some spelling)

/-- A collection under a tag; only a tag of the text's own counts. -/
def underTag (tag : Option Tag) (t : Tree) : Tree :=
  if tag.map Tag.kind == some .named then .tagged t else t

/-- The tree of a leaf without a value. -/
def noValue : Tree := .leaf .faulty none

/-- The text of a key. -/
def keyText? : Tree → Option String
  | .leaf _ spelling => spelling.map Spelling.text
  | _ => none

mutual

/--
The tree of a node, given what anchors stand for and how many aliases may still be followed. No
alias is followed in a value that the outline passes over.
-/
def tree (table : List (Nat × Node)) : Outline → Nat → Nat → Node → Tree × Nat
  | _, 0, aliases, _ => (noValue, aliases)
  | outline, depth + 1, aliases, n => match n with
    | scalar tag text plain => (scalarTree tag text plain, aliases)
    | reference k => match aliases, table.lookup k with
      | left + 1, some target => tree table outline depth left target
      | _, _ => (noValue, aliases)
    | anchored _ inner => tree table outline depth aliases inner
    | sequence tag items =>
      let (trees, aliases) := treesOfItems table outline.item depth aliases items
      (underTag tag (.sequence trees), aliases)
    | mapping tag entries =>
      let (trees, aliases) := treesOfEntries table outline depth aliases entries
      (underTag tag (.mapping trees), aliases)
termination_by _ depth _ n => (depth, sizeOf n)

def treesOfItems (table : List (Nat × Node)) (outline : Outline) (depth aliases : Nat) :
    List Node → List Tree × Nat
  | [] => ([], aliases)
  | n :: rest =>
    let (t, aliases) := tree table outline depth aliases n
    let (ts, aliases) := treesOfItems table outline depth aliases rest
    (t :: ts, aliases)
termination_by items => (depth, sizeOf items)

def treesOfEntries (table : List (Nat × Node)) (outline : Outline) (depth aliases : Nat) :
    List (Node × Node) → List (Tree × Tree) × Nat
  | [] => ([], aliases)
  | (k, v) :: rest =>
    let (t, aliases) := tree table .whole depth aliases k
    let (u, aliases) := match outline.value? (keyText? t) with
      | some part => tree table part depth aliases v
      | none => (noValue, aliases)
    let (ts, aliases) := treesOfEntries table outline depth aliases rest
    ((t, u) :: ts, aliases)
termination_by entries => (depth, sizeOf entries)

end

/--
The tree of a root node as far as the outline goes. Of two anchors with one number the later one
counts. A level of nesting takes at most three steps, so deeper values are beyond all levels that
are looked at.
-/
def toTree (outline : Outline) (root : Node) : Tree :=
  (tree root.anchors.reverse outline (3 * (levels + 2)) (100 * root.weight) root).1

end Node

/-- The tree that a YAML text spells, as far as the outline goes. -/
def read (outline : Outline) (bytes : ByteArray) : Except SyntaxError Tree :=
  match String.fromUTF8? bytes with
  | none => .error ⟨.encoding, 0⟩
  | some text => do
    let tokens ← Token.ofText text.toList
    let root ← Node.ofTokens? tokens
    pure (root.toTree outline)

end Paperwork.Yaml
