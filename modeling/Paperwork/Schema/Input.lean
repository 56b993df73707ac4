import Paperwork.Report

/-!
# The schema of an input

What an input of a template looks like: a JSON schema of the fields under their flat names, and a
sample that names a value for every field.
-/

namespace Paperwork

namespace Field

/-- The members of a schema that say which values a field takes. -/
def shape (f : Field) : List (String × Json) :=
  match f.kind with
  | .string | .longText => [("type", .text "string")]
  | .choice => [("type", .text "string"), ("enum", Json.texts f.options)]
  | .boolean => [("type", Json.texts ["boolean", "string"])]

/-- The schema of a field. -/
def schema (f : Field) : Json :=
  Json.objectOf (f.shape ++ [("title", .text f.label)]
    ++ optionalMember "description" .text f.description
    ++ (if f.default.isEmpty then [] else [("default", f.default.toJson)]))

/-- Whether an input must always give the field: no default and no dependency stands in for it. -/
def isMandatory (f : Field) : Bool :=
  f.required && f.dependsOn.isNone && f.default.isEmpty

/-- A value for the field: its default, or one made for it. -/
def sample (f : Field) : Value :=
  if f.default.isEmpty then
    match f.kind with
    | .boolean => .flag false
    | _ => .text ("example-" ++ f.name)
  else f.default

end Field

namespace Template

/-- The fields that every input must give. -/
def mandatory (t : Template) : List String := (t.fields.filter Field.isMandatory).map (·.name)

/-- The schema of the input of a template. -/
def inputSchema (t : Template) : Json :=
  Json.objectOf [("$schema", .text "https://json-schema.org/draft/2020-12/schema"),
    ("title", .text t.name), ("type", .text "object"),
    ("properties", Json.objectOf (t.fields.map fun f => (f.name, f.schema))),
    ("required", Json.texts t.mandatory)]

/-- A sample input of a template. -/
def sampleInput (t : Template) : Json :=
  Json.objectOf (t.fields.map fun f => (f.name, f.sample.toJson))

end Template

end Paperwork
