import Paperwork.Pattern.Syntax
import Paperwork.Unicode.Case
import Paperwork.Unicode.Property

/-!
# Patterns without flags

Lowering applies the switches: classes become sets of code points, lines and words become places
with a fixed meaning. Only patterns that match text are lowered; one that could match single bytes
of a longer character is refused. Nodes are built in a normal form, which the size of a pattern is
counted on: neighbouring texts are one text, concatenations and alternations are not nested in
their own kind, an alternation of characters is a class, and what all branches of an alternation
start with stands before it.
-/

namespace Paperwork.Pattern

open Paperwork.Unicode

/-- A place between characters. -/
inductive Place where
  | textStart
  | textEnd
  | lineStart (crlf : Bool)
  | lineEnd (crlf : Bool)
  | wordBoundary (ascii : Bool)
  | notWordBoundary (ascii : Bool)
  | wordStart (ascii : Bool)
  | wordEnd (ascii : Bool)
  | wordStartHalf (ascii : Bool)
  | wordEndHalf (ascii : Bool)
deriving DecidableEq, Repr

/-- What a pattern matches. -/
inductive Node where
  | empty
  /-- Characters one after the other. -/
  | text (cs : List Char)
  | chars (set : CodeSet)
  | place (p : Place)
  | repeated (sub : Node) (least : Nat) (most : Option Nat) (greedy : Bool)
  | capture (index : Nat) (name : Option String) (sub : Node)
  | concat (parts : List Node)
  | alternation (parts : List Node)

/-- The class of a set: a single character is a text. -/
def Node.ofSet (set : CodeSet) : Node :=
  let set := set.characters
  match set.ranges with
  | [(a, b)] => if a == b then .text [Char.ofNat a] else .chars set
  | _ => .chars set

/-- The switches in force. -/
structure Switches where
  ignoreCase : Bool
  multiLine : Bool
  dotAll : Bool
  lazyFirst : Bool
  unicode : Bool
  crlf : Bool

/-- Only Unicode classes are on at first. -/
def Switches.initial : Switches := ⟨false, false, false, false, true, false⟩

def Switches.apply (s : Switches) : FlagChange → Switches
  | [] => s
  | (flag, on) :: rest =>
    let s := match flag with
      | .ignoreCase => { s with ignoreCase := on }
      | .multiLine => { s with multiLine := on }
      | .dotAll => { s with dotAll := on }
      | .lazyFirst => { s with lazyFirst := on }
      | .unicode => { s with unicode := on }
      | .crlf => { s with crlf := on }
      | .ignoreBlanks => s
    s.apply rest

/-! ## Classes -/

/-- The ASCII code points of the classes with a letter. -/
def asciiLetterClass : LetterClass → CodeSet
  | .digit => ⟨[(48, 57)]⟩
  | .blank => ⟨[(9, 13), (32, 32)]⟩
  | .word => ⟨[(48, 57), (65, 90), (95, 95), (97, 122)]⟩

def unicodeLetterClass : LetterClass → CodeSet
  | .digit => digitCodes
  | .blank => blankCodes
  | .word => wordCodes

/-- A class with a letter. Outside of Unicode its complement would hold bytes that are no text. -/
def letterClassSet (s : Switches) (negated : Bool) (kind : LetterClass) :
    Except PatternError CodeSet :=
  if s.unicode then
    let set := unicodeLetterClass kind
    .ok (if negated then set.complement else set)
  else if negated then .error .notText
  else .ok (asciiLetterClass kind)

/-- Case folding and negation of a class. -/
def foldAndNegate (s : Switches) (negated : Bool) (set : CodeSet) : Except PatternError CodeSet :=
  if s.unicode then
    let set := if s.ignoreCase then set.foldCase else set
    .ok (if negated then set.complement else set)
  else if negated then .error .notText
  else .ok (if s.ignoreCase then set.foldAsciiCase else set)

/-- The code points of a property. -/
def propertySet (s : Switches) (negated : Bool) (query : PropertyQuery) :
    Except PatternError CodeSet :=
  if !s.unicode then .error .unknownProperty
  else
    let found := match query with
      | .named name => named? name
      | .valued property value => valued? property value
    match found with
    | some set => foldAndNegate s negated set
    | none => .error .unknownProperty

/-- The code point of a character in a class. -/
def classCode (s : Switches) (l : Letter) : Except PatternError Nat :=
  if s.unicode || l.char.val < 128 then .ok l.char.toNat else .error .notText

/-- A set operation after case folding of both sides. -/
def applyOperation (s : Switches) (kind : SetOperation) (a b : CodeSet) : CodeSet :=
  let fold (set : CodeSet) : CodeSet :=
    if !s.ignoreCase then set else if s.unicode then set.foldCase else set.foldAsciiCase
  match kind with
  | .intersection => (fold a).inter (fold b)
  | .difference => (fold a).diff (fold b)
  | .symmetricDifference => (fold a).symmDiff (fold b)

mutual

/-- The code points of an item. -/
def itemSet (s : Switches) : ClassItem → Except PatternError CodeSet
  | .letter l => do pure (.single (← classCode s l))
  | .range first last => do pure (.range (← classCode s first) (← classCode s last))
  | .ascii negated ranges => foldAndNegate s negated (.ofRanges ranges)
  | .letterClass negated kind => letterClassSet s negated kind
  | .property negated query => propertySet s negated query
  | .bracket negated set => do foldAndNegate s negated (← classSet s set)

def classSet (s : Switches) : ClassSet → Except PatternError CodeSet
  | .items list => do pure (.unions (← itemSets s list))
  | .operation kind left right => do
    let a ← classSet s left
    let b ← classSet s right
    pure (applyOperation s kind a b)

def itemSets (s : Switches) : List ClassItem → Except PatternError (List CodeSet)
  | [] => .ok []
  | item :: rest => do
    let set ← itemSet s item
    let sets ← itemSets s rest
    pure (set :: sets)

end

/-! ## Lowering -/

/-- A single character. -/
def letterNode (s : Switches) (l : Letter) : Except PatternError Node :=
  if !s.unicode && l.byte && 128 ≤ l.char.val then .error .notText
  else
    let set := CodeSet.single l.char.toNat
    .ok (.ofSet (if !s.ignoreCase then set
      else if s.unicode then set.foldCase else set.foldAsciiCase))

/-- Any character, line breaks excluded unless the switch for them is on. -/
def dotNode (s : Switches) : Except PatternError Node :=
  if !s.unicode then .error .notText
  else if s.dotAll then .ok (.ofSet .all)
  else if s.crlf then .ok (.ofSet (CodeSet.complement ⟨[(10, 10), (13, 13)]⟩))
  else .ok (.ofSet (CodeSet.complement ⟨[(10, 10)]⟩))

def anchorPlace (s : Switches) : Anchor → Place
  | .lineStart => if s.multiLine then .lineStart s.crlf else .textStart
  | .lineEnd => if s.multiLine then .lineEnd s.crlf else .textEnd
  | .textStart => .textStart
  | .textEnd => .textEnd
  | .wordBoundary => .wordBoundary (!s.unicode)
  | .notWordBoundary => .notWordBoundary (!s.unicode)
  | .wordStart => .wordStart (!s.unicode)
  | .wordEnd => .wordEnd (!s.unicode)
  | .wordStartHalf => .wordStartHalf (!s.unicode)
  | .wordEndHalf => .wordEndHalf (!s.unicode)

/-! ## Lengths -/

mutual

/-- Whether a node matches nothing but the empty text. -/
def Node.onlyEmpty : Node → Bool
  | .empty => true
  | .text _ => false
  | .chars _ => false
  | .place _ => true
  | .repeated sub _ most _ => match most with
    | none => false
    | some 0 => sub.bounded
    | some _ => sub.onlyEmpty
  | .capture _ _ sub => sub.onlyEmpty
  | .concat parts => Node.allOnlyEmpty parts
  | .alternation parts => Node.allOnlyEmpty parts

def Node.allOnlyEmpty : List Node → Bool
  | [] => true
  | part :: rest => part.onlyEmpty && Node.allOnlyEmpty rest

/-- Whether there is a longest text that a node matches. -/
def Node.bounded : Node → Bool
  | .empty => true
  | .text _ => true
  | .chars set => !set.isEmpty
  | .place _ => true
  | .repeated sub _ most _ => most.isSome && sub.bounded
  | .capture _ _ sub => sub.bounded
  | .concat parts => Node.allBounded parts
  | .alternation parts => Node.allBounded parts

def Node.allBounded : List Node → Bool
  | [] => true
  | part :: rest => part.bounded && Node.allBounded rest

end

mutual

/-- A length that every match of a node has at least; none if a part of it matches nothing. -/
def Node.leastLength? : Node → Option Nat
  | .empty => some 0
  | .text cs => some cs.length
  | .chars set => if set.isEmpty then none else some 1
  | .place _ => some 0
  | .repeated sub least _ _ => sub.leastLength?.map (least * ·)
  | .capture _ _ sub => sub.leastLength?
  | .concat parts => Node.sumOfLeast parts
  | .alternation parts => Node.leastOfAll parts

def Node.sumOfLeast : List Node → Option Nat
  | [] => some 0
  | part :: rest => match part.leastLength?, Node.sumOfLeast rest with
    | some a, some b => some (a + b)
    | _, _ => none

def Node.leastOfAll : List Node → Option Nat
  | [] => none
  | [part] => part.leastLength?
  | part :: rest => match part.leastLength?, Node.leastOfAll rest with
    | some a, some b => some (min a b)
    | _, _ => none

end

/-- Whether a node can match the empty text, or a part of it matches nothing. -/
def Node.maybeEmpty (n : Node) : Bool := n.leastLength?.all (· == 0)

/-! ## Normal forms -/

mutual

/-- Whether two nodes are equal. -/
def Node.same : Node → Node → Bool
  | .empty, .empty => true
  | .text a, .text b => a == b
  | .chars a, .chars b => a == b
  | .place a, .place b => a == b
  | .repeated a least most greedy, .repeated b least' most' greedy' =>
    least == least' && most == most' && greedy == greedy' && a.same b
  | .capture i _ a, .capture j _ b => i == j && a.same b
  | .concat as, .concat bs => Node.allSame as bs
  | .alternation as, .alternation bs => Node.allSame as bs
  | _, _ => false

def Node.allSame : List Node → List Node → Bool
  | [], [] => true
  | a :: as, b :: bs => a.same b && Node.allSame as bs
  | _, _ => false

end

mutual

/-- The number of nodes in a node. -/
def Node.weight : Node → Nat
  | .repeated sub _ _ _ => sub.weight + 1
  | .capture _ _ sub => sub.weight + 1
  | .concat parts => Node.weightOfAll parts + 1
  | .alternation parts => Node.weightOfAll parts + 1
  | _ => 1

def Node.weightOfAll : List Node → Nat
  | [] => 0
  | part :: rest => part.weight + Node.weightOfAll rest

end

/-- Puts neighbouring texts together. -/
def Node.mergeTexts : List Node → List Node
  | [] => []
  | part :: rest => match part, Node.mergeTexts rest with
    | .text a, .text b :: more => .text (a ++ b) :: more
    | part, more => part :: more

/-- The concatenation of nodes. -/
def Node.join (parts : List Node) : Node :=
  let flat := parts.flatMap fun
    | .concat inner => inner
    | .empty => []
    | part => [part]
  match Node.mergeTexts flat with
  | [] => .empty
  | [part] => part
  | parts => .concat parts

/-- The class that an alternation is if each branch is one character, or each one is a class. -/
def Node.classOf? (branches : List Node) : Option CodeSet :=
  let singles := branches.mapM fun
    | .text [c] => some (CodeSet.single c.toNat)
    | _ => none
  let classes := branches.mapM fun
    | .chars set => some set
    | _ => none
  (singles <|> classes).map CodeSet.unions

/-- The parts that two concatenations both start with. -/
def Node.commonParts : List Node → List Node → List Node
  | a :: as, b :: bs => if a.same b then a :: Node.commonParts as bs else []
  | _, _ => []

/-- The parts that all branches start with, if each branch is a concatenation. -/
def Node.commonPrefix (branches : List Node) : List Node :=
  let concats := branches.mapM fun
    | .concat parts => some parts
    | _ => none
  match concats with
  | some (first :: rest) => rest.foldl Node.commonParts first
  | _ => []

/-- A branch without a number of parts that it starts with. -/
def Node.dropParts (n : Nat) : Node → Node
  | .concat parts => .join (parts.drop n)
  | part => part

/-- The alternation of branches, where so many common prefixes may be taken out. -/
def Node.eitherWithin : Nat → List Node → Node
  | 0, branches => .alternation branches
  | fuel + 1, branches =>
    let flat := branches.flatMap fun
      | .alternation inner => inner
      | branch => [branch]
    match flat with
    | [] => .chars .empty
    | [branch] => branch
    | _ => match Node.classOf? flat with
      | some set => .ofSet set
      | none => match Node.commonPrefix flat with
        | [] => .alternation flat
        | common =>
          let rest := Node.eitherWithin fuel (flat.map (Node.dropParts common.length))
          .join (common ++ [rest])

/-- The alternation of branches. Each common prefix that is taken out leaves fewer nodes. -/
def Node.either (branches : List Node) : Node :=
  Node.eitherWithin (Node.weightOfAll branches + 1) branches

/--
A repetition. One of a node that matches only the empty text is taken at most once; none at all is
the empty pattern, together with the groups inside; exactly once is the node itself.
-/
def Node.repetition (sub : Node) (least : Nat) (most : Option Nat) (greedy : Bool) : Node :=
  let (least, most) :=
    if sub.onlyEmpty then (min least 1, some (match most with | none => 1 | some m => min m 1))
    else (least, most)
  if least == 0 && most == some 0 then .empty
  else if least == 1 && most == some 1 then sub
  else .repeated sub least most greedy

mutual

/-- Lowers a pattern; switches set in it hold up to the end of the group around them. -/
def lower (s : Switches) : Syntax → Except PatternError (Node × Switches)
  | .empty => .ok (.empty, s)
  | .flags change => .ok (.empty, s.apply change)
  | .letter l => do pure (← letterNode s l, s)
  | .dot => do pure (← dotNode s, s)
  | .anchor kind => .ok (.place (anchorPlace s kind), s)
  | .letterClass negated kind => do pure (.ofSet (← letterClassSet s negated kind), s)
  | .property negated query => do pure (.ofSet (← propertySet s negated query), s)
  | .bracket negated set => do pure (.ofSet (← foldAndNegate s negated (← classSet s set)), s)
  | .repeated sub least most greedy => do
    let (node, s) ← lower s sub
    pure (Node.repetition node least most (greedy != s.lazyFirst), s)
  | .group kind sub => match kind with
    | .capture index name => do
      let (node, _) ← lower s sub
      pure (.capture index name node, s)
    | .plain change => do
      let (node, _) ← lower (s.apply change) sub
      pure (node, s)
  | .concat parts => do
    let (nodes, s) ← lowerAll s parts
    pure (.join nodes, s)
  | .alternation parts => do
    let (nodes, s) ← lowerAll s parts
    pure (.either nodes, s)

def lowerAll (s : Switches) : List Syntax → Except PatternError (List Node × Switches)
  | [] => .ok ([], s)
  | part :: rest => do
    let (node, s) ← lower s part
    let (nodes, s) ← lowerAll s rest
    pure (node :: nodes, s)

end

end Paperwork.Pattern
