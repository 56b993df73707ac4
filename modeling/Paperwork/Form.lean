import Paperwork.Report

/-!
# Forms

A form shows a template, blank or filled from a report: its fields in their layout with values and
rejections, its derived values, its documents, and how many fields are settled.
-/

namespace Paperwork

/-- How far a form is filled. -/
inductive FormStatus where
  | needInput
  | invalid
  | complete
deriving DecidableEq, Repr

/-- The word for a status. -/
def FormStatus.word : FormStatus → String
  | needInput => "need_input"
  | invalid => "invalid"
  | complete => "complete"

/-- A field of a form: what the template says of it, its value and the message of its rejection. -/
structure FormField where
  field : Field
  value : Option Value
  error : Option String
deriving DecidableEq, Repr

/-- A form. -/
structure Form where
  template : String
  status : FormStatus
  valid : Nat
  layout : List LayoutEntry
  fields : List FormField
  derived : List (String × Option Value)
  documents : List String

namespace Form

/-- The number of fields. -/
def total (f : Form) : Nat := f.fields.length

/-- The field of a name. -/
def field? (f : Form) (name : String) : Option FormField :=
  f.fields.find? (·.field.name == name)

end Form

/-! ## Building forms -/

/-- The entry of a field, filled from a report. -/
def FormField.ofReport (report : Option Report) (field : Field) : FormField where
  field
  value := report.bind (·.fields.get? field.name)
  error := report.bind fun r => (r.errors.get? field.name).join

/-- The status that a report gives. -/
def FormStatus.ofReport : Option Report → FormStatus
  | none => needInput
  | some r => if r.isValid then complete else invalid

/-- The form of a template, blank or filled from a report. -/
def Template.form (t : Template) (report : Option Report) : Form :=
  let fields := t.fields.map (FormField.ofReport report)
  { template := t.name
    status := .ofReport report
    valid := if report.isSome then fields.countP (·.error.isNone) else 0
    layout := t.layout
    fields
    derived := t.derived.map fun d => (d.name, report.bind (·.fields.get? d.name))
    documents := t.documents.map (·.name) }

/-! ## A form as JSON -/

/-- The JSON form of a field. The description and the error are always given. -/
def FormField.toJson (f : FormField) : Json :=
  Json.objectOf ([("name", .text f.field.name), ("label", .text f.field.label),
      ("description", Json.textOrNull f.field.description), ("type", .text f.field.kind.name),
      ("required", .bool f.field.required), ("default", f.field.default.toJson)]
    ++ (if f.field.options.isEmpty then [] else [("options", Json.texts f.field.options)])
    ++ optionalMember "placeholder" .text f.field.placeholder
    ++ optionalMember "depends_on" .text f.field.dependsOn
    ++ optionalMember "group" .text f.field.group
    ++ optionalMember "current_value" Value.toJson f.value
    ++ [("error", Json.textOrNull f.error)])

/-- The JSON form of a derived value, null as long as it is not computed. -/
def derivedJson (d : String × Option Value) : Json :=
  Json.objectOf [("name", .text d.1), ("value", (d.2.map Value.toJson).getD .null)]

/-- The JSON form of a form. -/
def Form.toJson (f : Form) : Json :=
  Json.objectOf [("template", .text f.template), ("status", .text f.status.word),
    ("progress", Json.objectOf [("valid", Json.count f.valid), ("total", Json.count f.total)]),
    ("layout", .array (f.layout.map LayoutEntry.toJson)),
    ("fields", .array (f.fields.map FormField.toJson)),
    ("derived", .array (f.derived.map derivedJson)),
    ("documents", Json.texts f.documents)]

/-! ## A form as text -/

/-- The line of a field after its bullet. -/
def FormField.line (f : FormField) : String :=
  f.field.name ++ " (" ++ f.field.label ++ ", " ++ f.field.kind.name ++ ")"
    ++ (if f.field.required then " [required]" else "")
    ++ (match f.field.dependsOn with
        | some d => " [if " ++ d ++ "]"
        | none => "")
    ++ (if f.field.options.isEmpty then ""
        else " \x7b" ++ "|".intercalate f.field.options ++ "\x7d")
    ++ (match f.value with
        | some v => " = " ++ v.display
        | none => "")
    ++ (match f.error with
        | some e => " ! " ++ e
        | none => "")

namespace Form

/-- The line of the field of a name; nothing if the form has no such field. -/
def fieldLines (f : Form) (bullet name : String) : List String :=
  match f.field? name with
  | some field => [bullet ++ field.line]
  | none => []

/-- The lines of a layout entry: a group has a heading, and its members are set in. -/
def entryLines (f : Form) : LayoutEntry → List String
  | .field name => f.fieldLines " - " name
  | .group _ label names =>
    (" [" ++ label ++ "]") :: names.flatMap (f.fieldLines "   - ")

/-- The line of a derived value. -/
def derivedLine : String × Option Value → String
  | (name, some v) => " - " ++ name ++ " = " ++ v.display
  | (name, none) => " - " ++ name

/-- The lines of a form. -/
def lines (f : Form) : List String :=
  ["Template: " ++ f.template,
    "Status: " ++ f.status.word ++ " (" ++ Nat.repr f.valid ++ "/" ++ Nat.repr f.total ++ ")",
    "Fields:"]
  ++ f.layout.flatMap f.entryLines
  ++ (if f.derived.isEmpty then [] else "Derived:" :: f.derived.map derivedLine)
  ++ (if f.documents.isEmpty then [] else ["Documents: " ++ ", ".intercalate f.documents])

/-- The text of a form. -/
def text (f : Form) : String := "\n".intercalate f.lines

end Form

end Paperwork
