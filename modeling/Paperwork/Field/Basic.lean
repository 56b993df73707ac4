import Paperwork.Definition.Basic
import Paperwork.Definition.Encode
import Paperwork.Unicode.Case
import Paperwork.Value

/-!
# Input fields

A field of a template: its definition with the label and the default filled in, under its flat
name. The default of a field without one is the first option, the empty text or false.
-/

namespace Paperwork

/-- Texts that mean false, in lower case. -/
def falseTokens : List String := ["false", "no", "f", "n", "", "1"]

/-- Texts that mean true, in lower case. -/
def trueTokens : List String := ["true", "yes", "t", "y", "0"]

/-- The truth value that a text stands for in any case: "0" is true and "1" is false. -/
def truthOf? (s : String) : Option Bool :=
  let token := Unicode.lower s
  if falseTokens.contains token then some false
  else if trueTokens.contains token then some true
  else none

/-- An input field of a template. -/
structure Field where
  name : String
  label : String
  description : Option String
  kind : FieldKind
  options : List String
  default : Value
  required : Bool
  dependsOn : Option String
  placeholder : Option String
  group : Option String
deriving DecidableEq, Repr

/-- Why the definition of a field is not valid on its own. -/
inductive FieldError where
  | noOptions
  | invalidDefault (reason : String)
deriving DecidableEq, Repr

namespace Field

/-- The options of a field; only a choice has any, and it needs one. -/
def optionsOf (d : FieldDefinition) : Except FieldError (List String) :=
  match d.kind, d.options with
  | .choice, some (o :: os) => .ok (o :: os)
  | .choice, _ => .error .noOptions
  | _, _ => .ok []

/-- The default of a field that gives none. -/
def impliedDefault (kind : FieldKind) (options : List String) : Value :=
  match kind with
  | .choice => .text (options.headD "")
  | .boolean => .flag false
  | .string | .longText => .empty

/-- The default that a field gives. -/
def givenDefault (kind : FieldKind) (options : List String) (raw : Json) :
    Except FieldError Value :=
  match kind, raw with
  | .boolean, .bool b => .ok (.flag b)
  | .boolean, .text s => match truthOf? s with
    | some b => .ok (.flag b)
    | none => .error (.invalidDefault ("`" ++ s ++ "` is not true/false/yes/no"))
  | .choice, .text s =>
    if options.contains s then .ok (.text s)
    else .error (.invalidDefault (raw.compact ++ " is not one of the options"))
  | .choice, _ => .error (.invalidDefault (raw.compact ++ " is not one of the options"))
  | .string, .text s | .longText, .text s => .ok (.text s)
  | .string, .number n | .longText, .number n => .ok (.text n.text)
  | kind, _ =>
    .error (.invalidDefault (raw.compact ++ " is not a valid " ++ kind.name ++ " default"))

/-- The default of a field; null counts as none. -/
def defaultOf (d : FieldDefinition) (options : List String) : Except FieldError Value :=
  match d.default with
  | none | some .null => .ok (impliedDefault d.kind options)
  | some raw => givenDefault d.kind options raw

/-- The field of a definition under its flat name. The dependency is kept as written. -/
def ofDefinition (d : FieldDefinition) (name : String) (group : Option String) :
    Except FieldError Field := do
  let options ← optionsOf d
  let default ← defaultOf d options
  pure {
    name, default, options, group
    label := d.label.getD name
    description := d.description
    kind := d.kind
    required := d.required
    dependsOn := d.dependsOn
    placeholder := d.placeholder }

/-- The JSON form of a field, without the options that are absent. -/
def toJson (f : Field) : Json :=
  Json.objectOf ([("name", .text f.name), ("label", .text f.label)]
    ++ optionalMember "description" .text f.description
    ++ [("type", .text f.kind.name)]
    ++ (if f.options.isEmpty then [] else [("options", Json.texts f.options)])
    ++ [("default", f.default.toJson), ("required", .bool f.required)]
    ++ optionalMember "depends_on" .text f.dependsOn
    ++ optionalMember "placeholder" .text f.placeholder
    ++ optionalMember "group" .text f.group)

end Field

end Paperwork
