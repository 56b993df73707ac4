import Paperwork.Json.Basic

/-!
# Data trees

What a JSON or YAML text spells, before it is read as something: entries keep their order and
their repetitions, keys need not be texts, and a scalar remembers how it was spelled. Faults that
matter only where a value is looked at, such as a number beyond all doubles, are leaves.
-/

namespace Paperwork

/-- Why a tree is not the thing it is read as. -/
inductive DecodeError where
  | missing (name : String)
  | repeated (name : String)
  | expected (what : String)
  | unknownVariant (name : String)
  | tooManyItems (limit : Nat)
  | noValue
  | tooDeep
deriving DecidableEq, Repr

namespace DecodeError

/-- The wording of a fault. -/
def message : DecodeError → String
  | missing name => "missing field " ++ name
  | repeated name => "field " ++ name ++ " is given twice"
  | expected what => "expected " ++ what
  | unknownVariant name => "unknown variant " ++ name
  | tooManyItems limit => "more than " ++ Nat.repr limit ++ " items"
  | noValue => "a scalar has no value"
  | tooDeep => "nesting is too deep"

end DecodeError

/-- The value of a scalar. -/
inductive Leaf where
  | null
  | bool (b : Bool)
  | number (n : Number)
  | text (s : String)
  /-- A zero with a minus sign: the number zero, but no position. -/
  | minusZero
  /-- An infinity or an undefined number. -/
  | unbounded
  /-- Well-formed, but without a value. -/
  | faulty
deriving DecidableEq, Repr, Inhabited

/-- How a scalar was written, where that counts beside its value. -/
structure Spelling where
  text : String
  /-- Neither quoted nor a block. -/
  plain : Bool
  /-- What may be left out counts as left out. -/
  absent : Bool
deriving DecidableEq, Repr, Inhabited

/-- A data tree. -/
inductive Tree where
  | leaf (value : Leaf) (spelling : Option Spelling)
  | sequence (items : List Tree)
  | mapping (entries : List (Tree × Tree))
  /-- A collection under a tag of its own, which counts only once the collection is stored. -/
  | tagged (collection : Tree)
deriving Repr, Inhabited

/--
How a tree is looked at. Where positions count, a record may be given as the sequence of its
fields; where spellings count, any scalar may stand for a text. Where spellings do not count a
natural key names a field by its position.
-/
structure Reading where
  positional : Bool
  spelled : Bool
deriving DecidableEq, Repr

/-- How a tree is looked at once it has been stored: typed, and by position where that helps. -/
def Reading.stored : Reading := ⟨true, false⟩

namespace Tree

/-- A text leaf. -/
def text (s : String) : Tree := leaf (.text s) none

mutual

/-- Every leaf has a value and nesting stays within a number of levels. -/
def sound (levels : Nat) : Tree → Bool
  | leaf .faulty _ => false
  | leaf _ _ => true
  | sequence items => match levels with
    | 0 => false
    | n + 1 => soundItems n items
  | mapping entries => match levels with
    | 0 => false
    | n + 1 => soundEntries n entries
  | tagged _ => false

def soundItems (levels : Nat) : List Tree → Bool
  | [] => true
  | t :: rest => sound levels t && soundItems levels rest

def soundEntries (levels : Nat) : List (Tree × Tree) → Bool
  | [] => true
  | (k, v) :: rest => sound levels k && sound levels v && soundEntries levels rest

end

/-- Fails unless the tree is sound. -/
def requireSound (levels : Nat) (t : Tree) : Except DecodeError Unit :=
  if t.sound levels then .ok () else .error .tooDeep

/-- The text that a scalar stands for. -/
def text? (reading : Reading) : Tree → Except DecodeError String
  | leaf value spelling =>
    match reading.spelled, spelling, value with
    | true, some s, _ => .ok s.text
    | _, _, .text s => .ok s
    | _, _, .faulty => .error .noValue
    | _, _, _ => .error (.expected "a text")
  | _ => .error (.expected "a text")

mutual

/-- The free-form value of a tree. A number that is no double becomes null. -/
def json? (reading : Reading) (levels : Nat) : Tree → Except DecodeError Json
  | leaf value _ => match value with
    | .null => .ok .null
    | .bool b => .ok (.bool b)
    | .number n => .ok (.number n)
    | .text s => .ok (.text s)
    | .minusZero => .ok (.number (.natural 0))
    | .unbounded => .ok .null
    | .faulty => .error .noValue
  | sequence items => match levels with
    | 0 => .error .tooDeep
    | n + 1 => (jsonItems? reading n items).map .array
  | mapping entries => match levels with
    | 0 => .error .tooDeep
    | n + 1 => (jsonEntries? reading n entries).map Json.objectOf
  | tagged _ => .error .noValue

def jsonItems? (reading : Reading) (levels : Nat) : List Tree → Except DecodeError (List Json)
  | [] => .ok []
  | t :: rest => do
    let v ← json? reading levels t
    let vs ← jsonItems? reading levels rest
    pure (v :: vs)

def jsonEntries? (reading : Reading) (levels : Nat) :
    List (Tree × Tree) → Except DecodeError (List (String × Json))
  | [] => .ok []
  | (k, t) :: rest => do
    let name ← k.text? reading
    let v ← json? reading levels t
    let vs ← jsonEntries? reading levels rest
    pure ((name, v) :: vs)

end

mutual

/-- The tree of a JSON value. -/
def ofJson : Json → Tree
  | .null => leaf .null none
  | .bool b => leaf (.bool b) none
  | .number n => leaf (.number n) none
  | .text s => text s
  | .array items => sequence (ofJsonItems items)
  | .object members => mapping (ofJsonMembers members)

def ofJsonItems : List Json → List Tree
  | [] => []
  | v :: rest => ofJson v :: ofJsonItems rest

def ofJsonMembers : List (String × Json) → List (Tree × Tree)
  | [] => []
  | (k, v) :: rest => (text k, ofJson v) :: ofJsonMembers rest

end

/-- Whether the value of a tree is null. -/
def isNull : Tree → Bool
  | leaf .null _ => true
  | _ => false

/-- Whether a tree stands for a value that is left out: null, or spelled so where that counts. -/
def isAbsent (reading : Reading) : Tree → Bool
  | leaf value (some s) => if reading.spelled then s.absent else value == .null
  | leaf value none => value == .null
  | _ => false

end Tree

/-! ## Records -/

/-- The names that a field of a record goes by, the first one being its own. -/
abbrev FieldNames := List String

/-- The parts of a tree that are looked at; the others are passed over whatever they hold. -/
inductive Outline where
  | whole
  | items (each : Outline)
  | record (fields : List (FieldNames × Outline))
deriving Repr, Inhabited

namespace Outline

/-- The outline of the items of a sequence. -/
def item : Outline → Outline
  | items each => each
  | o => o

/-- The outline of the value under a key; none if the value is passed over. -/
def value? (name : Option String) : Outline → Option Outline
  | record fields => name.bind fun s => (fields.find? (·.1.contains s)).map (·.2)
  | o => some o

end Outline

namespace Tree

/-- The position of the field that a key names, if it names one. -/
def fieldOfKey? (reading : Reading) (fields : List FieldNames) (key : Tree) :
    Except DecodeError (Option Nat) :=
  match key.text? reading, key with
  | .ok name, _ => .ok (fields.findIdx? (·.contains name))
  | .error _, leaf (.number (.natural n)) _ =>
    .ok (if n.toNat < fields.length then some n.toNat else none)
  | .error e, _ => .error e

/-- Puts the values of a mapping's entries into the slots of their fields. -/
def fillSlots (reading : Reading) (fields : List FieldNames) :
    List (Tree × Tree) → List (Option Tree) → Except DecodeError (List (Option Tree))
  | [], slots => .ok slots
  | (key, value) :: rest, slots => do
    match ← fieldOfKey? reading fields key with
    | none => fillSlots reading fields rest slots
    | some i =>
      match slots[i]? with
      | some (some _) => .error (.repeated ((fields[i]?.bind List.head?).getD ""))
      | _ => fillSlots reading fields rest (slots.set i (some value))

/--
The values that a tree gives for the fields of a record, one slot a field. Unknown keys are passed
over, a known field given twice is an error.
-/
def slots? (reading : Reading) (fields : List FieldNames) :
    Tree → Except DecodeError (List (Option Tree))
  | mapping entries => fillSlots reading fields entries (List.replicate fields.length none)
  | sequence items =>
    if !reading.positional then .error (.expected "a mapping")
    else if fields.length < items.length then .error (.tooManyItems fields.length)
    else .ok (items.map some ++ List.replicate (fields.length - items.length) none)
  | tagged t => if reading.spelled then t.slots? reading fields else .error .noValue
  | leaf _ _ => .error (.expected "a mapping")

/-- The items of a sequence. An empty plain scalar stands for no items where spellings count. -/
def items? (reading : Reading) : Tree → Except DecodeError (List Tree)
  | sequence items => .ok items
  | leaf _ (some s) =>
    if reading.spelled && s.plain && s.text.isEmpty then .ok []
    else .error (.expected "a sequence")
  | tagged t => if reading.spelled then t.items? reading else .error .noValue
  | _ => .error (.expected "a sequence")

/-- Reads every item in order and stops at the first fault. -/
def readItems {α : Type} (read : Tree → Except DecodeError α) :
    List Tree → Except DecodeError (List α)
  | [] => .ok []
  | t :: rest => do
    let v ← read t
    let vs ← readItems read rest
    pure (v :: vs)

/-- The list of the items of a sequence. -/
def list? {α : Type} (reading : Reading) (read : Tree → Except DecodeError α) (t : Tree) :
    Except DecodeError (List α) := do
  readItems read (← t.items? reading)

/-- A truth value. -/
def bool? : Tree → Except DecodeError Bool
  | leaf (.bool b) _ => .ok b
  | _ => .error (.expected "a boolean")

/--
The position of a variant: its name, or a mapping whose only entry has the variant as key and
null as value.
-/
def variant? (reading : Reading) (names : List String) (t : Tree) : Except DecodeError Nat := do
  let byName (name : String) : Except DecodeError Nat :=
    match names.findIdx? (· == name) with
    | some i => .ok i
    | none => .error (.unknownVariant name)
  match t with
  | mapping [(key, value)] =>
    if !value.isNull then .error (.expected "null")
    else match key with
      | leaf (.number (.natural n)) _ =>
        if n.toNat < names.length then .ok n.toNat else .error (.unknownVariant (Nat.repr n.toNat))
      | _ => do byName (← key.text? reading)
  | _ => do byName (← t.text? reading)

/-- An optional field: absent, or read. -/
def givenOrNone {α : Type} (reading : Reading) (read : Tree → Except DecodeError α) :
    Option Tree → Except DecodeError (Option α)
  | none => .ok none
  | some t => if t.isAbsent reading then .ok none else (read t).map some

/-- A field that has to be given. -/
def given {α : Type} (name : String) (read : Tree → Except DecodeError α) :
    Option Tree → Except DecodeError α
  | none => .error (.missing name)
  | some t => read t

/-- A field with a value for the case that it is not given. -/
def givenOr {α : Type} (value : α) (read : Tree → Except DecodeError α) :
    Option Tree → Except DecodeError α
  | none => .ok value
  | some t => read t

end Tree

end Paperwork
