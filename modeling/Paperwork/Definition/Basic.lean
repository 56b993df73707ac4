import Paperwork.Data.Dict
import Paperwork.Json.Basic

/-!
# Template definitions

A definition is a template as its author writes it: fields and groups of fields, derived values
with their expressions, and documents with the fields that name their files.
-/

namespace Paperwork

/-- The types of input fields. -/
inductive FieldKind where
  | string
  | longText
  | choice
  | boolean
deriving DecidableEq, Repr, Inhabited

namespace FieldKind

/-- All types in their order. -/
def all : List FieldKind := [string, longText, choice, boolean]

/-- The name of a type. -/
def name : FieldKind → String
  | string => "string"
  | longText => "longText"
  | choice => "enum"
  | boolean => "boolean"

end FieldKind

/-- An input field as it is written. -/
structure FieldDefinition where
  name : String
  label : Option String := none
  description : Option String := none
  kind : FieldKind := .string
  options : Option (List String) := none
  default : Option Json := none
  required : Bool := true
  dependsOn : Option String := none
  placeholder : Option String := none
deriving Repr, Inhabited

/-- A group of fields, whose members are addressed as `group.field`. -/
structure GroupDefinition where
  group : String
  label : Option String := none
  fields : List FieldDefinition
deriving Repr, Inhabited

/-- An entry of the list of fields. -/
inductive FieldEntry where
  | group (g : GroupDefinition)
  | field (f : FieldDefinition)
deriving Repr, Inhabited

/-- A derived value: its name and whatever else is written beside it. -/
structure DerivedDefinition where
  name : String
  body : Dict Json

/--
The expression of a derived value. An operation written beside the name is the expression itself;
otherwise it stands under `expression` or `value`.
-/
def DerivedDefinition.expression (d : DerivedDefinition) : Json :=
  if d.body.contains "op" then .object d.body.toList
  else match d.body.get? "expression" <|> d.body.get? "value" with
    | some e => e
    | none => .object d.body.toList

/-- A document of the template. -/
structure DocumentDefinition where
  name : String
  outFile : String
  conditions : Option Json := none
deriving Repr, Inhabited

/-- A template as it is written. -/
structure Definition where
  name : String
  fields : List FieldEntry := []
  derived : List DerivedDefinition := []
  documents : List DocumentDefinition := []

end Paperwork
