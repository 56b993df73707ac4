import Paperwork.Expr.Notation
import Paperwork.Field.Basic

/-!
# Templates

A template holds checked fields, derived values and documents in the order of their declaration. A
document receives its payload once; a template is ready when every document has one.
-/

namespace Paperwork

/-- A derived value. -/
structure DerivedField where
  name : String
  expression : Expr

/-- The entry of a field or a group in a form. -/
inductive LayoutEntry where
  | field (name : String)
  | group (name label : String) (fields : List String)
deriving DecidableEq, Repr

/-- A document: its payload's name, the field that names its file, its condition, its payload. -/
structure Document where
  name : String
  outFile : String
  conditions : Expr
  contents : Option ByteArray := none

namespace Document

def isLoaded (d : Document) : Bool := d.contents.isSome

/-- Stores a payload unless there is one already, and tells whether it was stored. -/
def attach (d : Document) (bytes : ByteArray) : Document × Bool :=
  match d.contents with
  | some _ => (d, false)
  | none => ({ d with contents := some bytes }, true)

end Document

/-- A template. -/
structure Template where
  name : String
  layout : List LayoutEntry
  fields : List Field
  derived : List DerivedField
  documents : List Document

namespace Template

def field? (t : Template) (name : String) : Option Field := t.fields.find? (·.name == name)

def document? (t : Template) (name : String) : Option Document :=
  t.documents.find? (·.name == name)

/-- Whether every document has its payload. -/
def isReady (t : Template) : Bool := t.documents.all Document.isLoaded

/-- Stores the payload of the document of a name; nothing if there is no such document. -/
def attach? (t : Template) (name : String) (bytes : ByteArray) : Option (Template × Bool) :=
  match t.document? name with
  | none => none
  | some d =>
    let documents := t.documents.map fun e => if e.name == name then (e.attach bytes).1 else e
    some ({ t with documents }, (d.attach bytes).2)

end Template

/-! ## Public shape -/

def LayoutEntry.toJson : LayoutEntry → Json
  | field name => Json.objectOf [("kind", .text "field"), ("name", .text name)]
  | group name label fields =>
    Json.objectOf [("kind", .text "group"), ("name", .text name), ("label", .text label),
      ("fields", Json.texts fields)]

/-- What a form needs to know about a template. -/
structure Summary where
  name : String
  fields : List Field
  layout : List LayoutEntry
deriving DecidableEq, Repr

def Template.summary (t : Template) : Summary := ⟨t.name, t.fields, t.layout⟩

def Summary.toJson (s : Summary) : Json :=
  Json.objectOf [("name", .text s.name), ("fields", .array (s.fields.map Field.toJson)),
    ("layout", .array (s.layout.map LayoutEntry.toJson))]

end Paperwork
