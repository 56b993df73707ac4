import Paperwork.Proofs.Field.Check
import Paperwork.Proofs.Report.Derived

/-!
# Recorded fields as input

The fields of a report, given as input, are looked up under their own names. So each field meets
the value that it has recorded, in view of the same values before it as the first time, and by
`Field.outcome_again` records it once more. A report without messages is thus its own report
(`evaluate_normalizes`).
-/

namespace Paperwork

open Template

theorem rawInput?_toJson {f : Field} {fields : Fields} {v : Value}
    (h : fields.get? f.name = some v) : f.rawInput? fields.toJson = some v.toJson := by
  rw [Field.rawInput?, member?_toJson, h]
  rfl

/-! ## Input that gives what was recorded -/

variable {input again : Json} {fs : List Field}

/-- Each field is given the value that it has recorded for other input. -/
def Repeats (input again : Json) (fs : List Field) : Prop :=
  EachAfter (fun before f => f.rawInput? again = some (outcomeAfter input before f).1.toJson) fs

theorem repeats_concat {f : Field} :
    Repeats input again (fs ++ [f]) ↔
      Repeats input again fs ∧
        f.rawInput? again = some (outcomeAfter input fs f).1.toJson :=
  eachAfter_concat

theorem Repeats.of_append {rest : List Field} (h : Repeats input again (fs ++ rest)) :
    Repeats input again fs :=
  EachAfter.of_append h

/-- A field that meets its recorded value after the same fields. -/
theorem outcomeAfter_again {before : List Field} {f : Field}
    (hfields : (checkInputs again before).fields = (checkInputs input before).fields)
    (hraw : f.rawInput? again = some (outcomeAfter input before f).1.toJson) :
    (outcomeAfter again before f).1 = (outcomeAfter input before f).1 ∧
      ((outcomeAfter input before f).2 = none → (outcomeAfter again before f).2 = none) ∧
      (Value.IsPlain (f.rawInput? input) →
        (outcomeAfter again before f).2 = (outcomeAfter input before f).2) := by
  have heq : outcomeAfter again before f = f.outcome
      (some (outcomeAfter input before f).1.toJson) (checkInputs input before).fields := by
    rw [outcomeAfter, hfields, hraw]
  rw [heq]
  exact Field.outcome_again f (f.rawInput? input) (checkInputs input before).fields

/-- The same values are recorded, whatever becomes of the messages. -/
theorem Repeats.fields_eq (h : Repeats input again fs) :
    (checkInputs again fs).fields = (checkInputs input fs).fields := by
  induction fs using List.reverseRecOn with
  | nil => rfl
  | append_singleton fs f ih =>
    obtain ⟨hbefore, hraw⟩ := repeats_concat.mp h
    have hfields := ih hbefore
    rw [fields_checkInputs_concat, fields_checkInputs_concat, hfields,
      (outcomeAfter_again hfields hraw).1]

theorem Repeats.outcome_eq (h : Repeats input again fs) :
    EachAfter (fun before f =>
      (outcomeAfter again before f).1 = (outcomeAfter input before f).1 ∧
      ((outcomeAfter input before f).2 = none → (outcomeAfter again before f).2 = none) ∧
      (Value.IsPlain (f.rawInput? input) →
        (outcomeAfter again before f).2 = (outcomeAfter input before f).2)) fs := by
  rintro before f after rfl
  exact outcomeAfter_again h.of_append.fields_eq (h before f after rfl)

/-- If every field was accepted, all is recorded as it was. -/
theorem Repeats.checkInputs_eq (h : Repeats input again fs)
    (haccepted : EachAfter (fun before f => (outcomeAfter input before f).2 = none) fs) :
    checkInputs again fs = checkInputs input fs := by
  induction fs using List.reverseRecOn with
  | nil => rfl
  | append_singleton fs f ih =>
    obtain ⟨hbefore, hraw⟩ := repeats_concat.mp h
    obtain ⟨haccepted, hnone⟩ := eachAfter_concat.mp haccepted
    have hsame := ih hbefore haccepted
    obtain ⟨hvalue, hmessage, -⟩ := outcomeAfter_again hbefore.fields_eq hraw
    have houtcome : outcomeAfter again fs f = outcomeAfter input fs f :=
      Prod.ext hvalue ((hmessage hnone).trans hnone.symm)
    rw [outcomeAfter, outcomeAfter, hsame] at houtcome
    rw [checkInputs_concat, checkInputs_concat, record_eq, record_eq, hsame, houtcome]

/-! ## Reports -/

variable {t : Template} {r : Report}

theorem repeats_of_evaluate (ht : t.Scoped) (hr : t.evaluate input = .ok r) :
    Repeats input r.fields.toJson t.fields := by
  refine (eachAfter_of_evaluate ht hr).imp fun before f hf => ?_
  exact rawInput?_toJson hf.1

/-- A report without rejected fields is the report of its own fields. -/
theorem evaluate_again_of_accepted (ht : t.Scoped) (hr : t.evaluate input = .ok r)
    (haccepted : ∀ f ∈ t.fields, r.errors.get? f.name = some none) :
    t.evaluate r.fields.toJson = .ok r := by
  have hnone : EachAfter (fun before f => (outcomeAfter input before f).2 = none) t.fields := by
    intro before f after heq
    have hf := haccepted f (by simp [heq])
    rw [(eachAfter_of_evaluate ht hr before f after heq).2, Option.some.injEq] at hf
    exact hf
  have hsame := (repeats_of_evaluate ht hr).checkInputs_eq hnone
  rw [evaluate_eq, hsame, ← evaluate_eq]
  exact hr

/--
A report without rejected fields is the report of its own fields. In any other case, if there is a
report of the fields of a report, it has the same values for all input fields, it accepts every
field that was accepted, and it rejects every field that was rejected with the same message unless
the field had been given an object or an array with an item that is no text.
-/
theorem evaluate_normalizes {d : Definition} {t : Template} (h : Template.ofDefinition d = .ok t)
    {input : Json} {r : Report} (hr : t.evaluate input = .ok r) :
    ((∀ f ∈ t.fields, r.errors.get? f.name = some none) →
      t.evaluate r.fields.toJson = .ok r) ∧
    ∀ s, t.evaluate r.fields.toJson = .ok s → ∀ f ∈ t.fields,
      (∃ v, r.fields.get? f.name = some v ∧ s.fields.get? f.name = some v) ∧
      (r.errors.get? f.name = some none → s.errors.get? f.name = some none) ∧
      ∀ message, r.errors.get? f.name = some (some message) →
        Value.IsPlain (f.rawInput? input) → s.errors.get? f.name = some (some message) := by
  have ht := scoped_of_ofDefinition h
  refine ⟨evaluate_again_of_accepted ht hr, fun s hs f hf => ?_⟩
  obtain ⟨before, after, heq⟩ := List.append_of_mem hf
  obtain ⟨hvalue, haccepted, hplain⟩ := (repeats_of_evaluate ht hr).outcome_eq before f after heq
  obtain ⟨hfirst, hfirstError⟩ := eachAfter_of_evaluate ht hr before f after heq
  obtain ⟨hagain, hagainError⟩ := eachAfter_of_evaluate ht hs before f after heq
  rw [hfirst, hagain, hfirstError, hagainError, hvalue]
  refine ⟨⟨_, rfl, rfl⟩, fun hnone => ?_, fun message hmessage hraw => ?_⟩
  · rw [haccepted (Option.some.inj hnone)]
  · rw [hplain hraw, hmessage]

theorem leaseReport_normal :
    Template.ofDefinition lease = .ok leaseTemplate ∧
      leaseTemplate.evaluate leaseInput = .ok leaseReport ∧
      leaseTemplate.evaluate leaseReport.fields.toJson = .ok leaseReport :=
  ⟨ofDefinition_lease, evaluate_lease,
    (evaluate_normalizes ofDefinition_lease evaluate_lease).1 (by decide)⟩

-- an object is recorded as its JSON text, which is as good as any text the second time
example : ∃ r s, leaseTemplate.evaluate (.object [("tenant", .object [])]) = .ok r ∧
    leaseTemplate.evaluate r.fields.toJson = .ok s ∧ r.errorCount = 1 ∧ s.errorCount = 0 :=
  ⟨_, _, rfl, rfl, rfl, rfl⟩

end Paperwork
