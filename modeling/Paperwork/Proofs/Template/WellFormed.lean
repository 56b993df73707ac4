import Paperwork.Proofs.Template.Declaration

/-!
# Well-formed definitions

The rules of a definition, stated without the order in which they are checked, and the template
that a definition describes. `Template.ofDefinition` accepts exactly the well-formed definitions,
and the template it gives is the one described.
-/

namespace Paperwork

open Template

/-! ## The rules -/

namespace Definition

/-- The flat names of the input fields in the order of declaration. -/
def inputNames (d : Definition) : List String := d.flatFields.map FlatField.name

/-- The names that documents may refer to: those of input fields and of derived values. -/
def knownNames (d : Definition) : List String := d.inputNames ++ d.derived.map (·.name)

/-- The rules of a definition. -/
structure WellFormed (d : Definition) : Prop where
  inputs_distinct : d.inputNames.Nodup
  options_given : ∀ f ∈ d.flatFields, f.definition.HasOptions
  defaults_fit : ∀ f ∈ d.flatFields, f.definition.DefaultFits
  dependencies_declared : EachAfter (fun before f =>
    DependencyDeclared (before.map FlatField.name) f.group f.definition.dependsOn) d.flatFields
  derived_readable : EachAfter (fun before e => ∃ x, Expr.ofJson e.expression = .ok x ∧
    ReadsOnly (d.inputNames ++ before.map (·.name)) x) d.derived
  derived_distinct : (d.derived.map (·.name)).Nodup
  derived_not_input : ∀ e ∈ d.derived, e.name ∉ d.inputNames
  documents_distinct : (d.documents.map (·.name)).Nodup
  outFiles_known : ∀ e ∈ d.documents, e.outFile ∈ d.knownNames
  conditions_readable : ∀ e ∈ d.documents, ∀ v, e.conditions = some v →
    ∃ x, Expr.ofJson v = .ok x ∧ ReadsOnly d.knownNames x

end Definition

/--
A template lists what a definition declares, in the order of declaration. The dependency of a field
is the first of its candidates that is declared before the field.
-/
structure Definition.Describes (d : Definition) (t : Template) : Prop where
  name : t.name = d.name
  layout : t.layout = d.fields.map FieldEntry.layout
  inputs : t.fields.map (·.name) = d.inputNames
  fields : ∃ declared, List.Forall₂ FlatField.Describes d.flatFields declared ∧
    t.fields = resolved [] declared
  derived : List.Forall₂ DerivedDefinition.Describes d.derived t.derived
  documents : List.Forall₂ DocumentDefinition.Describes d.documents t.documents

/-! ## The loops together -/

namespace Definition

variable {d : Definition} {t : Template}

theorem ofDefinition_eq_ok_iff :
    Template.ofDefinition d = .ok t ↔ ∃ declared fields derived documents,
      declareFields [] d.flatFields = .ok declared ∧
      resolveAll [] (declared.map (·.name)) declared = .ok fields ∧
      declareDerived (declared.map (·.name)) d.derived = .ok derived ∧
      declareDocuments (declared.map (·.name) ++ derived.map (·.name)) [] d.documents
        = .ok documents ∧
      t = ⟨d.name, d.fields.map FieldEntry.layout, fields, derived, documents⟩ := by
  simp only [Template.ofDefinition, bind_eq_ok_iff, pure_eq_ok_iff]
  constructor
  · rintro ⟨declared, h1, fields, h2, derived, h3, documents, h4, rfl⟩
    exact ⟨declared, fields, derived, documents, h1, h2, h3, h4, rfl⟩
  · rintro ⟨declared, fields, derived, documents, h1, h2, h3, h4, rfl⟩
    exact ⟨declared, h1, fields, h2, derived, h3, documents, h4, rfl⟩

/-- Fields and definitions of one name in two lists of them. -/
theorem map_name_of_made {fs : List FlatField} {xs : List Field}
    (h : List.Forall₂ FlatField.Describes fs xs) : xs.map (·.name) = fs.map FlatField.name :=
  map_eq_of_forall₂ (fun _ _ hx => Field.name_of_ofDefinition hx) h

/-- Dependencies are declared before their fields, as they are before the definitions of these. -/
theorem dependencyDeclared_iff {fs : List FlatField} {xs : List Field}
    (h : List.Forall₂ FlatField.Describes fs xs) :
    EachAfter (fun before f =>
        DependencyDeclared (before.map FlatField.name) f.group f.definition.dependsOn) fs ↔
      EachAfter (fun before x =>
        DependencyDeclared (before.map (·.name)) x.group x.dependsOn) xs := by
  refine eachAfter_iff_of_forall₂
    (P := fun names f => DependencyDeclared names f.group f.definition.dependsOn)
    (Q := fun names x => DependencyDeclared names x.group x.dependsOn)
    (fun _ _ hx => Field.name_of_ofDefinition hx) (fun names f x hx => ?_) h
  obtain ⟨hdependsOn, hgroup⟩ := Field.dependsOn_of_ofDefinition hx
  rw [hdependsOn, hgroup]

theorem exists_derived_iff {known : List String} {ds : List DerivedDefinition} :
    (∃ xs, List.Forall₂ DerivedDefinition.Describes ds xs ∧ InScope known xs) ↔
      EachAfter (fun before e => ∃ x, Expr.ofJson e.expression = .ok x ∧
        ReadsOnly (known ++ before.map (·.name)) x) ds := by
  refine (exists_forall₂_eachAfter_iff (R := DerivedDefinition.Describes)
    (P := fun names x => ReadsOnly (known ++ names) x.expression)
    (f := DerivedDefinition.name) (g := DerivedField.name) fun _ _ hx => hx.1).trans ?_
  constructor
  · refine EachAfter.imp fun before e => ?_
    rintro ⟨x, hx, hreads⟩
    exact ⟨x.expression, hx.2, hreads⟩
  · refine EachAfter.imp fun before e => ?_
    rintro ⟨x, hx, hreads⟩
    exact ⟨⟨e.name, x⟩, ⟨rfl, hx⟩, hreads⟩

theorem exists_document_iff {known : List String} {e : DocumentDefinition} :
    (∃ x, e.Describes x ∧ ReadsOnly known x.conditions) ↔
      ∀ v, e.conditions = some v → ∃ x, Expr.ofJson v = .ok x ∧ ReadsOnly known x := by
  unfold DocumentDefinition.Describes DocumentDefinition.HasCondition
  cases hv : e.conditions with
  | none =>
    simp only [reduceCtorEq, false_implies, implies_true, iff_true]
    refine ⟨⟨e.name, e.outFile, .literal (.flag true), none⟩, ⟨rfl, rfl, rfl, rfl⟩, ?_⟩
    simp [ReadsOnly, Expr.references]
  | some v =>
    simp only [Option.some.injEq, forall_eq']
    constructor
    · rintro ⟨x, ⟨-, -, hx, -⟩, hreads⟩
      exact ⟨x.conditions, hx, hreads⟩
    · rintro ⟨x, hx, hreads⟩
      exact ⟨⟨e.name, e.outFile, x, none⟩, ⟨rfl, rfl, hx, rfl⟩, hreads⟩

/-! ## Acceptance -/

theorem describes_of_ofDefinition (h : Template.ofDefinition d = .ok t) : d.Describes t := by
  obtain ⟨declared, fields, derived, documents, hfields, hresolved, hderived, hdocuments, rfl⟩ :=
    ofDefinition_eq_ok_iff.mp h
  obtain ⟨-, hmade⟩ := declareFields_eq_ok_iff.mp hfields
  obtain ⟨-, rfl⟩ := resolveAll_eq_ok_iff.mp hresolved
  obtain ⟨-, hdescribed, -⟩ := declareDerived_eq_ok_iff.mp hderived
  obtain ⟨-, -, hread⟩ := declareDocuments_eq_ok_iff.mp hdocuments
  have hnames : declared.map (·.name) = d.inputNames := map_name_of_made hmade
  exact {
    name := rfl
    layout := rfl
    inputs := by rw [map_name_resolved, hnames]
    fields := ⟨declared, hmade, rfl⟩
    derived := hdescribed
    documents := hread.imp fun _ _ hx => hx.1 }

theorem wellFormed_of_ofDefinition (h : Template.ofDefinition d = .ok t) : d.WellFormed := by
  obtain ⟨declared, fields, derived, documents, hfields, hresolved, hderived, hdocuments, rfl⟩ :=
    ofDefinition_eq_ok_iff.mp h
  obtain ⟨hinputs, hmade⟩ := declareFields_eq_ok_iff.mp hfields
  obtain ⟨hdeclared, -⟩ := resolveAll_eq_ok_iff.mp hresolved
  obtain ⟨hnames, hdescribed, hscope⟩ := declareDerived_eq_ok_iff.mp hderived
  obtain ⟨hdistinct, houtFiles, hread⟩ := declareDocuments_eq_ok_iff.mp hdocuments
  rw [map_name_of_made hmade] at hnames hscope houtFiles hread
  rw [map_eq_of_forall₂ (fun _ _ hx => hx.1) hdescribed] at houtFiles hread
  have hfield : ∀ f ∈ d.flatFields, f.definition.HasOptions ∧ f.definition.DefaultFits :=
    fun f hf => (Field.exists_ofDefinition_iff f.name f.group).mp
      (exists_forall₂_iff.mp ⟨_, hmade⟩ f hf)
  exact {
    inputs_distinct := hinputs.1
    options_given := fun f hf => (hfield f hf).1
    defaults_fit := fun f hf => (hfield f hf).2
    dependencies_declared := (dependencyDeclared_iff hmade).mpr hdeclared
    derived_readable := exists_derived_iff.mp ⟨derived, hdescribed, hscope⟩
    derived_distinct := hnames.1
    derived_not_input := fun e he => hnames.2 e.name (List.mem_map_of_mem he)
    documents_distinct := hdistinct.1
    outFiles_known := houtFiles
    conditions_readable := fun e he =>
      exists_document_iff.mp (exists_forall₂_iff.mp ⟨_, hread⟩ e he) }

theorem WellFormed.exists_template (h : d.WellFormed) : ∃ t, Template.ofDefinition d = .ok t := by
  obtain ⟨declared, hmade⟩ := exists_forall₂_iff.mpr fun f hf =>
    (Field.exists_ofDefinition_iff f.name f.group).mpr
      ⟨h.options_given f hf, h.defaults_fit f hf⟩
  obtain ⟨derived, hdescribed, hscope⟩ := exists_derived_iff.mpr h.derived_readable
  obtain ⟨documents, hread⟩ := exists_forall₂_iff.mpr fun e he =>
    exists_document_iff.mpr (h.conditions_readable e he)
  have hnames : declared.map (·.name) = d.inputNames := map_name_of_made hmade
  have hderivedNames : derived.map (·.name) = d.derived.map (·.name) :=
    map_eq_of_forall₂ (fun _ _ hx => hx.1) hdescribed
  refine ⟨_, ofDefinition_eq_ok_iff.mpr ⟨declared, resolved [] declared, derived, documents,
    ?_, ?_, ?_, ?_, rfl⟩⟩
  · exact declareFields_eq_ok_iff.mpr ⟨⟨h.inputs_distinct, by simp⟩, hmade⟩
  · exact resolveAll_eq_ok_iff.mpr
      ⟨(dependencyDeclared_iff hmade).mp h.dependencies_declared, rfl⟩
  · rw [hnames]
    refine declareDerived_eq_ok_iff.mpr ⟨⟨h.derived_distinct, ?_⟩, hdescribed, hscope⟩
    intro n hn
    obtain ⟨e, he, rfl⟩ := List.mem_map.mp hn
    exact h.derived_not_input e he
  · rw [hnames, hderivedNames]
    exact declareDocuments_eq_ok_iff.mpr
      ⟨⟨h.documents_distinct, by simp⟩, h.outFiles_known, hread⟩

/--
Exactly the well-formed definitions are accepted, and what they declare appears in the template in
the order of declaration.
-/
theorem ofDefinition_accepts_wellFormed (d : Definition) :
    ((∃ t, Template.ofDefinition d = .ok t) ↔ d.WellFormed) ∧
      ∀ t, Template.ofDefinition d = .ok t → d.Describes t :=
  ⟨⟨fun ⟨_, h⟩ => wellFormed_of_ofDefinition h, WellFormed.exists_template⟩,
    fun _ => describes_of_ofDefinition⟩

end Definition

/-! ## A lease -/

/-- A lease: the name of a spouse is needed if the tenant is married. -/
def lease : Definition where
  name := "lease"
  fields := [
    .field { name := "tenant" },
    .field { name := "married", kind := .boolean, default := some (.text "no") },
    .group { group := "spouse", fields := [{ name := "name", dependsOn := some "married" }] }]
  derived := [
    ⟨"heading", Dict.ofList [("op", .text "upper"),
      ("arg", .object [("name", .text "tenant"), ("op", .text "field")])]⟩,
    ⟨"title", Dict.ofList [("value", .object [
      ("args", .array [.object [("name", .text "heading"), ("op", .text "field")], .text "!"]),
      ("op", .text "concat")])]⟩]
  documents := [{
    name := "consent.docx"
    outFile := "title"
    conditions := some (.object [("name", .text "married"), ("op", .text "field")]) }]

/-- The template of a lease. -/
def leaseTemplate : Template where
  name := "lease"
  layout := [.field "tenant", .field "married", .group "spouse" "spouse" ["spouse.name"]]
  fields := [
    ⟨"tenant", "tenant", none, .string, [], .text "", true, none, none, none⟩,
    ⟨"married", "married", none, .boolean, [], .flag false, true, none, none, none⟩,
    ⟨"spouse.name", "spouse.name", none, .string, [], .text "", true, some "married", none,
      some "spouse"⟩]
  derived := [⟨"heading", .upper (.field "tenant")⟩,
    ⟨"title", .concat [.field "heading", .literal (.text "!")]⟩]
  documents := [{ name := "consent.docx", outFile := "title", conditions := .field "married" }]

theorem ofDefinition_lease : Template.ofDefinition lease = .ok leaseTemplate := rfl

end Paperwork
