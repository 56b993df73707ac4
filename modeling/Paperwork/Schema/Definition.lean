import Paperwork.Definition.Basic

/-!
# The schema of a definition

A JSON schema of definitions, for editors that check a definition while it is written.
-/

namespace Paperwork.Schema

/-- A text. -/
def text : Json := Json.objectOf [("type", .text "string")]

/-- A text or null. -/
def optionalText : Json := Json.objectOf [("type", Json.texts ["string", "null"])]

/-- A reference to one of the shared schemas. -/
def shared (name : String) : Json := Json.objectOf [("$ref", .text ("#/$defs/" ++ name))]

/-- An array of items of a shared schema. -/
def listOf (name : String) : Json :=
  Json.objectOf [("items", shared name), ("type", .text "array")]

/-- An array of items of a shared schema that is empty when left out. -/
def optionalList (name : String) : Json :=
  Json.objectOf [("default", .array []), ("items", shared name), ("type", .text "array")]

/-- The schema of an object: what it is, its properties, and which of them it needs. -/
def record (description : String) (properties : List (String × Json)) (required : List String)
    (more : List (String × Json)) : Json :=
  Json.objectOf ([("description", .text description), ("properties", Json.objectOf properties),
    ("required", Json.texts required), ("type", .text "object")] ++ more)

def field : Json :=
  record "One input field as written in a template definition."
    [("name", text), ("label", optionalText), ("description", optionalText),
      ("type", Json.objectOf [("$ref", .text "#/$defs/FieldType"), ("default", .text "string")]),
      ("options", Json.objectOf [("items", text), ("type", Json.texts ["array", "null"])]),
      ("default", .bool true),
      ("required", Json.objectOf [("default", .bool true), ("type", .text "boolean")]),
      ("dependsOn", optionalText), ("placeholder", optionalText)]
    ["name"] []

def fieldKind : Json :=
  Json.objectOf [("description", .text "Supported input field types."),
    ("enum", Json.texts (FieldKind.all.map FieldKind.name)), ("type", .text "string")]

def group : Json :=
  record "A named group of fields. Members are addressed as `group.field`."
    [("group", text), ("label", optionalText), ("fields", listOf "FieldDefinition")]
    ["group", "fields"] []

def fieldEntry : Json :=
  Json.objectOf [("anyOf", .array [shared "GroupDefinition", shared "FieldDefinition"]),
    ("description", .text "Entry of the `fields` list: a plain field or a group of fields.")]

def derived : Json :=
  record ("A derived field: its name plus an expression.\n\nThe expression is either given under "
      ++ "`expression` (or `value`) or written\ninline next to `name` (`\x7bname, op, ...\x7d`).")
    [("name", text)] ["name"] [("additionalProperties", .bool true)]

def document : Json :=
  record "An output document of the template."
    [("name", Json.objectOf [("type", .text "string"),
        ("description", .text "Entry name of the document payload inside the package.")]),
      ("outFile", Json.objectOf [("type", .text "string"),
        ("description", .text "Field whose value names the generated file.")]),
      ("conditions", Json.objectOf [("description",
        .text "Emission condition; the document is always emitted when absent.")])]
    ["name", "outFile"] []

/-- The schema of definitions. -/
def definition : Json :=
  record "Declarative template definition as stored in a template package."
    [("name", text), ("fields", optionalList "FieldEntry"),
      ("derived", optionalList "DerivedDefinition"),
      ("documents", optionalList "DocumentDefinition")]
    ["name"]
    [("$schema", .text "https://json-schema.org/draft/2020-12/schema"),
      ("title", .text "TemplateDefinition"),
      ("$defs", Json.objectOf [("DerivedDefinition", derived), ("DocumentDefinition", document),
        ("FieldDefinition", field), ("FieldEntry", fieldEntry), ("FieldType", fieldKind),
        ("GroupDefinition", group)])]

end Paperwork.Schema
