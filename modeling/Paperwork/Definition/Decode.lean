import Paperwork.Definition.Basic
import Paperwork.Tree.Basic

/-!
# Reading definitions from trees

Known keys given twice are faults and unknown keys are passed over, except beside a derived value,
where they are its body. An entry of the list of fields is a group if it can be read as one.
-/

namespace Paperwork

open Paperwork.Tree

/-- The keys of a field in their order. -/
def FieldDefinition.keys : List FieldNames :=
  [["name"], ["label"], ["description"], ["type"], ["options"], ["default"], ["required"],
    ["dependsOn", "depends_on"], ["placeholder"]]

/-- The keys of a group in their order. -/
def GroupDefinition.keys : List FieldNames := [["group"], ["label"], ["fields"]]

/-- The keys of a document in their order. -/
def DocumentDefinition.keys : List FieldNames := [["name"], ["outFile", "out_file"], ["conditions"]]

/-- The keys of a definition in their order. -/
def Definition.keys : List FieldNames := [["name"], ["fields"], ["derived"], ["documents"]]

/-- The parts of a definition that are looked at: in fields and derived values, all. -/
def Definition.outline : Outline :=
  .record (Definition.keys.zip
    [.whole, .whole, .whole, .items (.record (DocumentDefinition.keys.map (·, .whole)))])

/-- The value in a slot. -/
def slot (slots : List (Option Tree)) (i : Nat) : Option Tree := (slots[i]?).join

/-- The type of a field. -/
def FieldKind.ofTree? (t : Tree) : Except DecodeError FieldKind := do
  let i ← t.variant? .stored (FieldKind.all.map FieldKind.name)
  match FieldKind.all[i]? with
  | some kind => .ok kind
  | none => .error (.unknownVariant (Nat.repr i))

/-- Reads a field. Texts have to be written as texts. -/
def FieldDefinition.ofTree? (levels : Nat) (t : Tree) : Except DecodeError FieldDefinition := do
  let r := Reading.stored
  let slots ← t.slots? r keys
  let name ← given "name" (text? r) (slot slots 0)
  let label ← givenOrNone r (text? r) (slot slots 1)
  let description ← givenOrNone r (text? r) (slot slots 2)
  let kind ← givenOr .string FieldKind.ofTree? (slot slots 3)
  let options ← givenOrNone r (list? r (text? r)) (slot slots 4)
  let default ← givenOrNone r (json? r levels) (slot slots 5)
  let required ← givenOr true bool? (slot slots 6)
  let dependsOn ← givenOrNone r (text? r) (slot slots 7)
  let placeholder ← givenOrNone r (text? r) (slot slots 8)
  pure { name, label, description, kind, options, default, required, dependsOn, placeholder }

/-- Reads a group and its members. -/
def GroupDefinition.ofTree? (levels : Nat) (t : Tree) : Except DecodeError GroupDefinition := do
  let r := Reading.stored
  let slots ← t.slots? r keys
  let group ← given "group" (text? r) (slot slots 0)
  let label ← givenOrNone r (text? r) (slot slots 1)
  let fields ← given "fields" (list? r (FieldDefinition.ofTree? levels)) (slot slots 2)
  pure { group, label, fields }

/-- Reads an entry of the list of fields: a group if possible, a plain field otherwise. -/
def FieldEntry.ofTree? (levels : Nat) (t : Tree) : Except DecodeError FieldEntry :=
  match GroupDefinition.ofTree? levels t with
  | .ok g => .ok (.group g)
  | .error _ => (FieldDefinition.ofTree? levels t).map .field

/-- Collects the name and the body of a derived value from the entries of its mapping. -/
def DerivedDefinition.collect (reading : Reading) (levels : Nat) :
    List (Tree × Tree) → Option String → Dict Json → Except DecodeError DerivedDefinition
  | [], some name, body => .ok ⟨name, body⟩
  | [], none, _ => .error (.missing "name")
  | (k, v) :: rest, name, body => do
    let key ← k.text? reading
    if key == "name" then
      if name.isSome then .error (.repeated "name")
      else do
        let s ← v.text? reading
        collect reading levels rest (some s) body
    else do
      let value ← v.json? .stored levels
      collect reading levels rest name (body.insert key value)

/-- Reads a derived value. -/
def DerivedDefinition.ofTree? (reading : Reading) (levels : Nat) :
    Tree → Except DecodeError DerivedDefinition
  | .mapping entries | .tagged (.mapping entries) => collect reading levels entries none .empty
  | _ => .error (.expected "a mapping")

/-- Reads a document. -/
def DocumentDefinition.ofTree? (reading : Reading) (levels : Nat) (t : Tree) :
    Except DecodeError DocumentDefinition := do
  let slots ← t.slots? reading keys
  let name ← given "name" (text? reading) (slot slots 0)
  let outFile ← given "outFile" (text? reading) (slot slots 1)
  let conditions ← givenOrNone reading (json? reading levels) (slot slots 2)
  pure { name, outFile, conditions }

/--
Reads a definition. An entry of the list of fields is stored as a whole before it is looked at, so
every scalar in it needs a value; elsewhere only what is looked at does.
-/
def Definition.ofTree? (reading : Reading) (levels : Nat) (t : Tree) :
    Except DecodeError Definition := do
  let slots ← t.slots? reading keys
  let name ← given "name" (text? reading) (slot slots 0)
  let fields ← givenOr [] (list? reading fun t => do
    t.requireSound (levels - 2)
    FieldEntry.ofTree? levels t) (slot slots 1)
  let derived ← givenOr [] (list? reading (DerivedDefinition.ofTree? reading (levels - 3)))
    (slot slots 2)
  let documents ← givenOr [] (list? reading (DocumentDefinition.ofTree? reading (levels - 3)))
    (slot slots 3)
  pure { name, fields, derived, documents }

end Paperwork
