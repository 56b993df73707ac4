import Paperwork.Field.Basic

/-!
# Checking the input of a field

Raw input becomes a value, an empty value is replaced by the default, a required field must not
stay empty unless what it depends on does not hold, and the value must be of the field's type.
-/

namespace Paperwork

/-- Why a field rejects its input. -/
inductive Rejection where
  | unsupported
  | missing
  | notAnOption
  | notTruth
  | notText
deriving DecidableEq, Repr

namespace Field

/-- The wording of a rejection. -/
def rejectionMessage (f : Field) : Rejection → String
  | .unsupported => "Value of " ++ f.name ++ " must be text, a boolean or a list"
  | .missing => "Field " ++ f.name ++ " is required"
  | .notAnOption => "Value of " ++ f.name ++ " must be one of: "
      ++ ", ".intercalate (f.options.map Json.quote)
  | .notTruth => "Value of " ++ f.name ++ " must be true/false/yes/no"
  | .notText => "Value of " ++ f.name ++ " must be text"

/-- An empty value gives way to a default that is not empty. -/
def fill (f : Field) (v : Value) : Value :=
  if v.isEmpty && !f.default.isEmpty then f.default else v

/-- Whether the field may stay empty because what it depends on does not hold. -/
def isWaived (f : Field) (prior : Fields) : Bool :=
  match f.dependsOn with
  | none => false
  | some d => match prior.get? d with
    | some v => !v.isTruthy
    | none => true

/-- Brings a value to the type of the field. -/
def conform (f : Field) (v : Value) : Except Rejection Value :=
  match f.kind, v with
  | .choice, .text s => if f.options.contains s then .ok v else .error .notAnOption
  | .choice, _ => .error .notAnOption
  | .boolean, .flag b => .ok (.flag b)
  | .boolean, .text s => match truthOf? s with
    | some b => .ok (.flag b)
    | none => .error .notTruth
  | .boolean, .list _ => .error .notTruth
  | .string, .text _ | .longText, .text _ => .ok v
  | .string, _ | .longText, _ => .error .notText

/-- The value of a field for raw input, given the values of the fields before it. -/
def check (f : Field) (raw : Option Json) (prior : Fields) : Except Rejection Value :=
  match Value.ofRaw? raw with
  | none => .error .unsupported
  | some v =>
    let v := f.fill v
    if v.isEmpty && f.required then
      if f.isWaived prior then .ok v else .error .missing
    else f.conform v

end Field

end Paperwork
