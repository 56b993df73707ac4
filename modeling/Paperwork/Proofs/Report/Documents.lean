import Paperwork.Generation
import Paperwork.Proofs.Report.Derived

/-!
# Names that documents look at

A template refers to nothing that its reports could lack. So a derived value is never undefined,
and in a report without rejected fields neither is a condition or the name of a file
(`ofDefinition_scope_sound`).
-/

namespace Paperwork

open Template

variable {t : Template} {input : Json} {r : Report} {doc : Document} {fields : Fields}

/-- A condition over fields with values holds or fails on its own account. -/
theorem isDue_of_defined
    (h : ∀ missing, doc.conditions.eval fields ≠ .error (.undefinedField missing)) :
    doc.isDue fields = (doc.conditions.eval fields).map Value.isTruthy := by
  unfold Document.isDue
  split
  · rename_i v hv
    rw [hv]
    rfl
  · rename_i missing hmissing
    exact absurd hmissing (h missing)
  · rename_i cause _ hcause
    rw [hcause]
    rfl

theorem fileName_eq_noValue_iff :
    doc.fileName fields = .error .noValue ↔ fields.get? doc.outFile = none := by
  unfold Document.fileName
  split
  · rename_i hnone
    simp [hnone]
  · rename_i s hs
    rw [hs]
    cases Path.fileName? s <;> simp
  · rename_i v _ hv
    simp [hv]

/-- Whatever is rejected or left out, all fields have values when the derived ones are computed. -/
theorem evaluate_ne_undefined (ht : t.Scoped) {name missing : String} :
    t.evaluate input ≠ .error (.derived name (.undefinedField missing)) := by
  intro h
  obtain ⟨-, hderived⟩ := evaluate_eq_error_iff.mp h
  exact computeDerived_ne_undefined ht.derived_inScope
    (fun n hn => isSome_get?_checkInputs ht.inputs_distinct hn) hderived

theorem condition_ne_undefined (ht : t.Scoped) (hr : t.evaluate input = .ok r)
    (hcount : r.errorCount = 0) (hdoc : doc ∈ t.documents) {missing : String} :
    doc.conditions.eval r.fields ≠ .error (.undefinedField missing) :=
  eval_ne_undefined (ht.conditions_known doc hdoc) fun _ hn =>
    isSome_get?_of_evaluate ht hr hcount hn

theorem fileName_ne_noValue (ht : t.Scoped) (hr : t.evaluate input = .ok r)
    (hcount : r.errorCount = 0) (hdoc : doc ∈ t.documents) :
    doc.fileName r.fields ≠ .error .noValue := by
  intro h
  have hsome := isSome_get?_of_evaluate ht hr hcount (ht.outFiles_known doc hdoc)
  rw [fileName_eq_noValue_iff.mp h] at hsome
  cases hsome

/--
No derived value of a template that is made of a definition is undefined, for any input. In a
report without rejected fields no condition is undefined either, so that whether a document is due
is up to its condition alone, and the field that names its file has a value.
-/
theorem ofDefinition_scope_sound {d : Definition} {t : Template}
    (h : Template.ofDefinition d = .ok t) (input : Json) :
    (∀ name missing, t.evaluate input ≠ .error (.derived name (.undefinedField missing))) ∧
    ∀ r, t.evaluate input = .ok r → r.errorCount = 0 → ∀ doc ∈ t.documents,
      (∀ missing, doc.conditions.eval r.fields ≠ .error (.undefinedField missing)) ∧
      doc.isDue r.fields = (doc.conditions.eval r.fields).map Value.isTruthy ∧
      doc.fileName r.fields ≠ .error .noValue := by
  have ht := scoped_of_ofDefinition h
  refine ⟨fun _ _ => evaluate_ne_undefined ht, fun r hr hcount doc hdoc => ?_⟩
  have hdefined : ∀ missing, doc.conditions.eval r.fields ≠ .error (.undefinedField missing) :=
    fun _ => condition_ne_undefined ht hr hcount hdoc
  exact ⟨hdefined, isDue_of_defined hdefined, fileName_ne_noValue ht hr hcount hdoc⟩

theorem leaseTemplate_scope_sound :
    Template.ofDefinition lease = .ok leaseTemplate ∧ ∀ doc ∈ leaseTemplate.documents,
      doc.isDue leaseReport.fields =
          (doc.conditions.eval leaseReport.fields).map Value.isTruthy ∧
        doc.fileName leaseReport.fields ≠ .error .noValue :=
  ⟨ofDefinition_lease, fun doc hdoc =>
    ((ofDefinition_scope_sound ofDefinition_lease leaseInput).2 leaseReport evaluate_lease rfl doc
      hdoc).2⟩

end Paperwork
