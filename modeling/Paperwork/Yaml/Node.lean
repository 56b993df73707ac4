import Paperwork.Yaml.Token

/-!
# Nodes of a YAML document

The tokens of a text grouped into the nodes of its only document. Anchors are numbered by the count
of names that came before, so a name that is anchored again shares its number with the next name.
-/

namespace Paperwork.Yaml

/-- A node of a document. -/
inductive Node where
  | scalar (tag : Option Tag) (text : String) (plain : Bool)
  | reference (anchor : Nat)
  | sequence (tag : Option Tag) (items : List Node)
  | mapping (tag : Option Tag) (entries : List (Node × Node))
  | anchored (anchor : Nat) (node : Node)
deriving Repr, Inhabited

/-- The node that stands where nothing is written. -/
def Node.blank : Node := .scalar none "" true

/-- What is left of the tokens, the tag handles, and the anchors of names. -/
structure NodeReader where
  tokens : List Token
  handles : List (String × List UInt8)
  anchors : List (String × Nat)

/-- A step that reads from tokens. -/
abbrev ReadNode := StateT NodeReader (Except SyntaxError)

namespace NodeReader

/-- The problem of the next token; places are not known any more. -/
def fail {α : Type} (problem : Problem) : ReadNode α := fun _ => .error ⟨problem, 0⟩

/-- The next token. -/
def peek : ReadNode Token := do return ((← get).tokens.head?).getD .streamEnd

/-- Steps over the next token. -/
def skip : ReadNode Unit := modify fun r => { r with tokens := r.tokens.drop 1 }

/-- Steps over the next token if it is the expected one. -/
def skipIf (t : Token) : ReadNode Bool := do
  if (← peek) == t then skip; return true
  else return false

/-! ## Properties -/

/-- The number of an anchor that is put on a name. -/
def putAnchor (name : String) : ReadNode Nat := do
  let r ← get
  let names := (r.anchors.map (·.1)).eraseDups
  set { r with anchors := (name, names.length) :: r.anchors }
  return names.length

/-- The number of the anchor that an alias names. -/
def anchorOf (name : String) : ReadNode Nat := do
  match (← get).anchors.lookup name with
  | some n => return n
  | none => fail .undefinedAnchor

/-- The full form of a tag. -/
def resolveTag (handle : String) (suffix : List UInt8) : ReadNode Tag := do
  if handle == "" then return .ofParts [] suffix
  else match (← get).handles.lookup handle with
    | some expansion => return .ofParts expansion suffix
    | none => fail .undefinedHandle

/-- Reads an anchor and a tag in either order. -/
def properties : ReadNode (Option Nat × Option Tag) := do
  match ← peek with
  | .anchor name => do
    skip
    match ← peek with
    | .tag handle suffix => do
      skip
      let tag ← resolveTag handle suffix
      return (some (← putAnchor name), some tag)
    | _ => return (some (← putAnchor name), none)
  | .tag handle suffix => do
    skip
    match ← peek with
    | .anchor name => do
      skip
      let tag ← resolveTag handle suffix
      return (some (← putAnchor name), some tag)
    | _ => return (none, some (← resolveTag handle suffix))
  | _ => return (none, none)

/-- Puts an anchor on a node. -/
def anchor (number : Option Nat) (n : Node) : Node :=
  match number with
  | some k => .anchored k n
  | none => n

/-! ## Nodes -/

mutual

/--
Reads a node. In block context it may be a block collection, and as a key or a value of a mapping it
may be a sequence that is not set in.
-/
def node (block bare : Bool) : Nat → ReadNode Node
  | 0 => fail .unexpectedToken
  | fuel + 1 => do
    match ← peek with
    | .reference name => do
      skip
      return .reference (← anchorOf name)
    | _ => do
      let (number, tag) ← properties
      match ← peek with
      | .scalar text plain => do
        skip
        return anchor number (.scalar tag text plain)
      | .flowSequenceStart => do
        skip
        return anchor number (.sequence tag (← flowItems true fuel))
      | .flowMappingStart => do
        skip
        return anchor number (.mapping tag (← flowEntries true fuel))
      | token =>
        if bare && token == .blockEntry then
          return anchor number (.sequence tag (← bareItems fuel))
        else if block && token == .blockSequenceStart then do
          skip
          return anchor number (.sequence tag (← blockItems fuel))
        else if block && token == .blockMappingStart then do
          skip
          return anchor number (.mapping tag (← blockEntries fuel))
        else if number.isSome || tag.isSome then
          return anchor number (.scalar tag "" true)
        else fail .unexpectedToken

/-- Reads a node, or nothing before one of the given tokens. -/
def nodeUnless (ends : List Token) (block bare : Bool) : Nat → ReadNode Node
  | 0 => fail .unexpectedToken
  | fuel + 1 => do
    if ends.contains (← peek) then return .blank else node block bare fuel

/-- Reads the items of a block sequence. -/
def blockItems : Nat → ReadNode (List Node)
  | 0 => fail .unexpectedToken
  | fuel + 1 => do
    if ← skipIf .blockEntry then
      let item ← nodeUnless [.blockEntry, .blockEnd] true false fuel
      return item :: (← blockItems fuel)
    else if ← skipIf .blockEnd then return []
    else fail .unexpectedToken

/-- Reads the items of a sequence that is not set in. -/
def bareItems : Nat → ReadNode (List Node)
  | 0 => fail .unexpectedToken
  | fuel + 1 => do
    if ← skipIf .blockEntry then
      let item ← nodeUnless [.blockEntry, .key, .value, .blockEnd] true false fuel
      return item :: (← bareItems fuel)
    else return []

/-- Reads the entries of a block mapping. -/
def blockEntries : Nat → ReadNode (List (Node × Node))
  | 0 => fail .unexpectedToken
  | fuel + 1 => do
    let ends := [Token.key, .value, .blockEnd]
    if ← skipIf .key then
      let key ← nodeUnless ends true true fuel
      let value ← if ← skipIf .value then nodeUnless ends true true fuel else pure .blank
      return (key, value) :: (← blockEntries fuel)
    else if ← skipIf .blockEnd then return []
    else fail .unexpectedToken

/-- Reads the items of a flow sequence. An item with a colon is a mapping of one entry. -/
def flowItems (first : Bool) : Nat → ReadNode (List Node)
  | 0 => fail .unexpectedToken
  | fuel + 1 => do
    if ← skipIf .flowSequenceEnd then return []
    else
      if !first then
        if !(← skipIf .flowEntry) then fail .unexpectedToken
      if ← skipIf .key then
        let key ← if [Token.value, .flowEntry, .flowSequenceEnd].contains (← peek) then do
            skip
            pure .blank
          else node false false fuel
        let value ← if ← skipIf .value then
            nodeUnless [.flowEntry, .flowSequenceEnd] false false fuel
          else pure .blank
        return .mapping none [(key, value)] :: (← flowItems false fuel)
      else if ← skipIf .flowSequenceEnd then return []
      else
        let item ← node false false fuel
        return item :: (← flowItems false fuel)

/-- Reads the entries of a flow mapping. An item without a colon is a key without a value. -/
def flowEntries (first : Bool) : Nat → ReadNode (List (Node × Node))
  | 0 => fail .unexpectedToken
  | fuel + 1 => do
    if ← skipIf .flowMappingEnd then return []
    else
      if !first then
        if !(← skipIf .flowEntry) then fail .unexpectedToken
      if ← skipIf .key then
        let key ← nodeUnless [.value, .flowEntry, .flowMappingEnd] false false fuel
        let value ← if ← skipIf .value then
            nodeUnless [.flowEntry, .flowMappingEnd] false false fuel
          else pure .blank
        return (key, value) :: (← flowEntries false fuel)
      else if ← skipIf .flowMappingEnd then return []
      else
        let key ← node false false fuel
        return (key, .blank) :: (← flowEntries false fuel)

end

/-! ## Documents -/

/-- Reads the directives before a document: at most one version, each handle once. -/
def directives (hasVersion : Bool) (seen : List String) : Nat → ReadNode Bool
  | 0 => return hasVersion || !seen.isEmpty
  | fuel + 1 => do
    match ← peek with
    | .version major minor => do
      skip
      if hasVersion || major != 1 || (minor != 1 && minor != 2) then fail .directive
      else directives true seen fuel
    | .handle name expansion => do
      skip
      if seen.contains name then fail .directive
      else do
        modify fun r => { r with handles := (name, expansion) :: r.handles }
        directives hasVersion (name :: seen) fuel
    | _ => return hasVersion || !seen.isEmpty

/-- Reads the only document of a text. -/
def document (fuel : Nat) : ReadNode Node := do
  let directed ← directives false [] fuel
  let explicit ← skipIf .documentStart
  if directed && !explicit then fail .unexpectedToken
  if !explicit && (← peek) == .streamEnd then fail .noDocument
  let root ← match ← peek with
    | .version _ _ | .handle _ _ | .documentStart | .documentEnd | .streamEnd => pure .blank
    | _ => node true false fuel
  modify fun r => { r with tokens := r.tokens.dropWhile (· == .documentEnd) }
  if (← peek) == .streamEnd then return root else fail .manyDocuments

end NodeReader

/-- The root node of the only document of tokens. -/
def Node.ofTokens? (tokens : List Token) : Except SyntaxError Node := do
  let handles := [("!", Tag.ownExpansion), ("!!", Tag.coreExpansion)]
  let (root, _) ← (NodeReader.document (3 * tokens.length + 3)).run ⟨tokens, handles, []⟩
  pure root

end Paperwork.Yaml
