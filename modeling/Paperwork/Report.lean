import Paperwork.Expr.Eval
import Paperwork.Field.Check
import Paperwork.Template.Basic

/-!
# Evaluating an input

Every field is checked against its part of the input, in the order of declaration, and rejected
input is recorded as it came. Derived values are computed only if no field was rejected; a failing
one is a defect of the template.
-/

namespace Paperwork

/--
The outcome for an input: the values, and for each input field either nothing or the message of its
rejection.
-/
structure Report where
  fields : Fields
  errors : Dict (Option String)
  errorCount : Nat
deriving DecidableEq

namespace Report

/-- No field was rejected. -/
def isValid (r : Report) : Bool := r.errorCount == 0

/-- Rejected fields with their messages, in the order of their names. -/
def messages (r : Report) : List (String × String) :=
  r.errors.toList.filterMap fun e => e.2.map fun m => (e.1, m)

/-- The report before any field is checked. -/
def blank : Report := ⟨.empty, .empty, 0⟩

/-- Records an accepted value. -/
def accept (r : Report) (name : String) (v : Value) : Report :=
  { r with fields := r.fields.insert name v, errors := r.errors.insert name none }

/-- Records a rejected value with its message. -/
def reject (r : Report) (name : String) (v : Value) (message : String) : Report :=
  ⟨r.fields.insert name v, r.errors.insert name (some message), r.errorCount + 1⟩

/-- The JSON form of a report. -/
def toJson (r : Report) : Json :=
  Json.objectOf [("fields", r.fields.toJson),
    ("errors", .object (r.errors.toList.map fun e => (e.1, Json.textOrNull e.2))),
    ("error_count", Json.count r.errorCount)]

end Report

/-! ## Looking up raw input -/

/-- Drops a prefix from a text. -/
def dropPrefix? (start s : String) : Option String :=
  if start.toList.isPrefixOf s.toList then some (String.ofList (s.toList.drop start.length))
  else none

/-- The name of a field inside of its group. -/
def Field.memberName? (f : Field) : Option (String × String) := do
  let group ← f.group
  let member ← dropPrefix? (group ++ ".") f.name
  some (group, member)

/-- The raw input of a field: under its flat name, or else inside of the object of its group. -/
def Field.rawInput? (f : Field) (input : Json) : Option Json :=
  match input.member? f.name with
  | some raw => some raw
  | none => do
    let (group, member) ← f.memberName?
    (← input.member? group).member? member

/-! ## Evaluation -/

/-- Checks one field and records the outcome. -/
def Report.record (input : Json) (r : Report) (f : Field) : Report :=
  let raw := f.rawInput? input
  match f.check raw r.fields with
  | .ok v => r.accept f.name v
  | .error e => r.reject f.name (Value.echo raw) (f.rejectionMessage e)

/-- Computes derived values in turn over the values before them. -/
def computeDerived (fields : Fields) : List DerivedField → Except Defect Fields
  | [] => .ok fields
  | d :: rest => match d.expression.eval fields with
    | .ok v => computeDerived (fields.insert d.name v) rest
    | .error cause => .error (.derived d.name cause)

/-- The report of an input. -/
def Template.evaluate (t : Template) (input : Json) : Except Defect Report :=
  let checked := t.fields.foldl (Report.record input) .blank
  if checked.isValid then
    (computeDerived checked.fields t.derived).map fun fields => { checked with fields }
  else .ok checked

end Paperwork
