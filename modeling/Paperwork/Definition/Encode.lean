import Paperwork.Definition.Basic

/-!
# Writing definitions as JSON

Absent options are left out; the type, the `required` switch and the three lists are always given.
-/

namespace Paperwork

/-- A member that is left out when there is nothing to write. -/
def optionalMember {α : Type} (name : String) (toJson : α → Json) : Option α → List (String × Json)
  | none => []
  | some v => [(name, toJson v)]

def FieldDefinition.toJson (f : FieldDefinition) : Json :=
  Json.objectOf ([("name", .text f.name)]
    ++ optionalMember "label" .text f.label
    ++ optionalMember "description" .text f.description
    ++ [("type", .text f.kind.name)]
    ++ optionalMember "options" Json.texts f.options
    ++ optionalMember "default" id f.default
    ++ [("required", .bool f.required)]
    ++ optionalMember "dependsOn" .text f.dependsOn
    ++ optionalMember "placeholder" .text f.placeholder)

def GroupDefinition.toJson (g : GroupDefinition) : Json :=
  Json.objectOf ([("group", .text g.group)]
    ++ optionalMember "label" .text g.label
    ++ [("fields", .array (g.fields.map FieldDefinition.toJson))])

def FieldEntry.toJson : FieldEntry → Json
  | .group g => g.toJson
  | .field f => f.toJson

def DerivedDefinition.toJson (d : DerivedDefinition) : Json :=
  Json.objectOf (("name", .text d.name) :: d.body.toList)

def DocumentDefinition.toJson (d : DocumentDefinition) : Json :=
  Json.objectOf ([("name", .text d.name), ("outFile", .text d.outFile)]
    ++ optionalMember "conditions" id d.conditions)

def Definition.toJson (d : Definition) : Json :=
  Json.objectOf [("name", .text d.name),
    ("fields", .array (d.fields.map FieldEntry.toJson)),
    ("derived", .array (d.derived.map DerivedDefinition.toJson)),
    ("documents", .array (d.documents.map DocumentDefinition.toJson))]

end Paperwork
