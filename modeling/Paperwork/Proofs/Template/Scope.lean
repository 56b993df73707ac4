import Paperwork.Proofs.Template.WellFormed

/-!
# Scopes of templates

In a template that is made of a definition no name is used twice, derived values read nothing but
input fields and values derived before them, and documents look at known names only
(`scoped_of_ofDefinition`).
-/

namespace Paperwork

namespace Template

/-- The names of the input fields. -/
def inputNames (t : Template) : List String := t.fields.map (·.name)

/-- The names of the derived values. -/
def derivedNames (t : Template) : List String := t.derived.map (·.name)

/-- The names that documents may refer to. -/
def knownNames (t : Template) : List String := t.inputNames ++ t.derivedNames

/-- Names are distinct, and whatever is referred to is known where it is referred to. -/
structure Scoped (t : Template) : Prop where
  inputs_distinct : t.inputNames.Nodup
  derived_new : AreNew t.inputNames t.derivedNames
  derived_inScope : InScope t.inputNames t.derived
  outFiles_known : ∀ d ∈ t.documents, d.outFile ∈ t.knownNames
  conditions_known : ∀ d ∈ t.documents, ReadsOnly t.knownNames d.conditions

theorem scoped_of_ofDefinition {d : Definition} {t : Template} (h : ofDefinition d = .ok t) :
    t.Scoped := by
  obtain ⟨declared, fields, derived, documents, hfields, hresolved, hderived, hdocuments, rfl⟩ :=
    Definition.ofDefinition_eq_ok_iff.mp h
  obtain ⟨hinputs, hmade⟩ := declareFields_eq_ok_iff.mp hfields
  obtain ⟨-, rfl⟩ := resolveAll_eq_ok_iff.mp hresolved
  obtain ⟨hnew, hdescribed, hscope⟩ := declareDerived_eq_ok_iff.mp hderived
  obtain ⟨-, houtFiles, hread⟩ := declareDocuments_eq_ok_iff.mp hdocuments
  rw [← map_eq_of_forall₂ (fun _ _ hx => hx.1) hdescribed] at hnew
  rw [← Definition.map_name_of_made hmade] at hinputs
  have hdocument : ∀ x ∈ documents,
      x.outFile ∈ declared.map (·.name) ++ derived.map (·.name) ∧
        ReadsOnly (declared.map (·.name) ++ derived.map (·.name)) x.conditions := by
    intro x hx
    obtain ⟨e, he, hdescribes, hreads⟩ := exists_left_of_forall₂ hread hx
    exact ⟨hdescribes.2.1 ▸ houtFiles e he, hreads⟩
  exact {
    inputs_distinct := by rw [inputNames, map_name_resolved]; exact hinputs.1
    derived_new := by rw [inputNames, map_name_resolved]; exact hnew
    derived_inScope := by rw [inputNames, map_name_resolved]; exact hscope
    outFiles_known := fun x hx => by
      rw [knownNames, inputNames, map_name_resolved]
      exact (hdocument x hx).1
    conditions_known := fun x hx => by
      rw [knownNames, inputNames, map_name_resolved]
      exact (hdocument x hx).2 }

/-- Derived values do not take the names of input fields. -/
theorem Scoped.not_mem_derivedNames {t : Template} (h : t.Scoped) {n : String}
    (hn : n ∈ t.inputNames) : n ∉ t.derivedNames :=
  fun hderived => h.derived_new.2 n hderived hn

/-! ## Dependencies -/

theorem meaning?_mem {earlier : List String} {f : Field} {n : String}
    (h : meaning? earlier f = some n) : n ∈ earlier := by
  obtain ⟨d, -, hfind⟩ := Option.bind_eq_some_iff.mp h
  simpa using List.find?_some hfind

theorem eachAfter_resolved {earlier : List String} {fs : List Field} :
    EachAfter (fun before f => ∀ n, f.dependsOn = some n → n ∈ earlier ++ before.map (·.name))
      (resolved earlier fs) := by
  induction fs generalizing earlier with
  | nil => exact eachAfter_nil _
  | cons f rest ih =>
    refine eachAfter_cons.mpr ⟨fun n hn => List.mem_append_left _ (meaning?_mem hn), ?_⟩
    have hrest := @ih (earlier ++ [f.name])
    exact hrest.imp fun before g hg n hn => by simpa using hg n hn

/-- A field depends on one that is declared before it. -/
theorem dependsOn_declared_before {d : Definition} {t : Template} (h : ofDefinition d = .ok t) :
    EachAfter (fun before f => ∀ n, f.dependsOn = some n → n ∈ before.map (·.name)) t.fields := by
  obtain ⟨declared, -, hfields⟩ := (Definition.describes_of_ofDefinition h).fields
  rw [hfields]
  exact @eachAfter_resolved [] declared

end Template

end Paperwork
