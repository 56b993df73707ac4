import Paperwork.Template.Basic

/-!
# Building templates from definitions

The rules are checked in a fixed order and the first one broken is reported: fields one by one,
their dependencies, derived values, documents. A name is known from its declaration on.
-/

namespace Paperwork

/-- The rule that a definition breaks. -/
inductive TemplateError where
  | enumWithoutOptions (field : String)
  | invalidDefault (field reason : String)
  | duplicateField (name : String)
  | unknownDependency (field dependsOn : String)
  | forwardDependency (field dependsOn : String)
  | invalidExpression (context : String) (cause : ExprError)
  | undefinedReference (context name : String)
  | unknownOutFile (document field : String)
  | duplicateDocument (name : String)
deriving DecidableEq, Repr

/-- The wording of a broken rule. -/
def TemplateError.message : TemplateError → String
  | enumWithoutOptions field => "enum field `" ++ field ++ "` needs a non-empty `options` list"
  | invalidDefault field reason => "invalid default for `" ++ field ++ "`: " ++ reason
  | duplicateField name => "field `" ++ name ++ "` is declared more than once"
  | unknownDependency field dependsOn =>
    "field `" ++ field ++ "` depends on unknown field `" ++ dependsOn ++ "`"
  | forwardDependency field dependsOn =>
    "field `" ++ field ++ "` depends on `" ++ dependsOn ++ "`, which is not declared before it"
  | invalidExpression context cause => context ++ ": " ++ cause.message
  | undefinedReference context name =>
    context ++ " references `" ++ name
      ++ "`, which is not an input field or an earlier derived field"
  | unknownOutFile document field =>
    "document `" ++ document ++ "` takes its file name from unknown field `" ++ field ++ "`"
  | duplicateDocument name => "document `" ++ name ++ "` is declared more than once"

/-! ## Flat fields -/

/-- A field definition with the group around it. -/
structure FlatField where
  group : Option String
  definition : FieldDefinition

/-- The name of a member of a group. -/
def memberName (group field : String) : String := group ++ "." ++ field

/-- The name of a field in a template: that of a member, or its own. -/
def FlatField.name (f : FlatField) : String :=
  match f.group with
  | some g => memberName g f.definition.name
  | none => f.definition.name

/-- The fields of an entry. -/
def FieldEntry.flatten : FieldEntry → List FlatField
  | .field f => [⟨none, f⟩]
  | .group g => g.fields.map fun f => ⟨some g.group, f⟩

/-- The fields of a definition in the order of declaration. -/
def Definition.flatFields (d : Definition) : List FlatField := d.fields.flatMap FieldEntry.flatten

/-- The form entry of a field or group. -/
def FieldEntry.layout : FieldEntry → LayoutEntry
  | .field f => .field f.name
  | .group g =>
    .group g.group (g.label.getD g.group) (g.fields.map fun f => memberName g.group f.name)

namespace Template

/-- The error of a field under its name. -/
def fieldError (name : String) : FieldError → TemplateError
  | .noOptions => .enumWithoutOptions name
  | .invalidDefault reason => .invalidDefault name reason

/-- Declares fields in turn, after the names that are taken. -/
def declareFields (taken : List String) : List FlatField → Except TemplateError (List Field)
  | [] => .ok []
  | f :: rest =>
    if taken.contains f.name then .error (.duplicateField f.name)
    else match Field.ofDefinition f.definition f.name f.group with
      | .error e => .error (fieldError f.name e)
      | .ok field => do
        let fields ← declareFields (taken ++ [f.name]) rest
        pure (field :: fields)

/-! ## Dependencies -/

/-- The names that a dependency may mean: a member of the same group, then the name itself. -/
def candidates (group : Option String) (dependsOn : String) : List String :=
  match group with
  | some g => [memberName g dependsOn, dependsOn]
  | none => [dependsOn]

/-- The field that a dependency means, given the names declared before it and all names. -/
def resolveDependency (earlier all : List String) (f : Field) (dependsOn : String) :
    Except TemplateError String :=
  let names := candidates f.group dependsOn
  match names.find? earlier.contains with
  | some name => .ok name
  | none => match names.find? all.contains with
    | some name => .error (.forwardDependency f.name name)
    | none => .error (.unknownDependency f.name dependsOn)

/-- Resolves the dependencies of fields in turn, after the fields declared earlier. -/
def resolveAll (earlier all : List String) : List Field → Except TemplateError (List Field)
  | [] => .ok []
  | f :: rest => do
    let dependsOn ← match f.dependsOn with
      | none => .ok none
      | some d => (resolveDependency earlier all f d).map some
    let fields ← resolveAll (earlier ++ [f.name]) all rest
    pure ({ f with dependsOn } :: fields)

/-! ## Expressions, derived values and documents -/

/-- Reads an expression whose references must be known. -/
def readExpression (context : String) (known : List String) (v : Json) :
    Except TemplateError Expr :=
  match Expr.ofJson v with
  | .error cause => .error (.invalidExpression context cause)
  | .ok e => match e.references.find? (fun name => !known.contains name) with
    | some name => .error (.undefinedReference context name)
    | none => .ok e

/-- Reads derived values in turn; each one is known after its own declaration. -/
def declareDerived (known : List String) : List DerivedDefinition →
    Except TemplateError (List DerivedField)
  | [] => .ok []
  | d :: rest => do
    let e ← readExpression ("derived field `" ++ d.name ++ "`") known d.expression
    if known.contains d.name then .error (.duplicateField d.name)
    else do
      let fields ← declareDerived (known ++ [d.name]) rest
      pure (⟨d.name, e⟩ :: fields)

/-- The condition of a document; without one it always holds. -/
def readCondition (known : List String) (d : DocumentDefinition) : Except TemplateError Expr :=
  match d.conditions with
  | none => .ok (.literal (.flag true))
  | some v => readExpression ("conditions of document `" ++ d.name ++ "`") known v

/-- Reads documents in turn, after the names that are taken. -/
def declareDocuments (known taken : List String) : List DocumentDefinition →
    Except TemplateError (List Document)
  | [] => .ok []
  | d :: rest =>
    if taken.contains d.name then .error (.duplicateDocument d.name)
    else if !known.contains d.outFile then .error (.unknownOutFile d.name d.outFile)
    else do
      let conditions ← readCondition known d
      let documents ← declareDocuments known (taken ++ [d.name]) rest
      pure ({ name := d.name, outFile := d.outFile, conditions } :: documents)

/-- The template of a definition. -/
def ofDefinition (d : Definition) : Except TemplateError Template := do
  let declared ← declareFields [] d.flatFields
  let names := declared.map (·.name)
  let fields ← resolveAll [] names declared
  let derived ← declareDerived names d.derived
  let documents ← declareDocuments (names ++ derived.map (·.name)) [] d.documents
  pure { name := d.name, layout := d.fields.map FieldEntry.layout, fields, derived, documents }

end Template

end Paperwork
