import Paperwork.Proofs.Sequence
import Paperwork.Report

/-!
# The fields of a report

What is recorded for a field depends on its raw input and on the values recorded before it
(`Field.outcome`). The report of some fields with distinct names holds for each of them the outcome
that it had when its turn came (`eachAfter_checkInputs`), and counts the messages.
-/

namespace Paperwork

/-- The value that is recorded for raw input, and the message if the input is rejected. -/
def Field.outcome (f : Field) (raw : Option Json) (prior : Fields) : Value × Option String :=
  match f.check raw prior with
  | .ok v => (v, none)
  | .error e => (Value.echo raw, some (f.rejectionMessage e))

theorem Field.outcome_of_ok {f : Field} {raw : Option Json} {prior : Fields} {v : Value}
    (h : f.check raw prior = .ok v) : f.outcome raw prior = (v, none) := by
  rw [outcome, h]

theorem Field.outcome_of_error {f : Field} {raw : Option Json} {prior : Fields} {e : Rejection}
    (h : f.check raw prior = .error e) :
    f.outcome raw prior = (Value.echo raw, some (f.rejectionMessage e)) := by
  rw [outcome, h]

theorem record_eq (input : Json) (r : Report) (f : Field) :
    r.record input f =
      ⟨r.fields.insert f.name (f.outcome (f.rawInput? input) r.fields).1,
        r.errors.insert f.name (f.outcome (f.rawInput? input) r.fields).2,
        r.errorCount + if (f.outcome (f.rawInput? input) r.fields).2.isSome then 1 else 0⟩ := by
  simp only [Report.record]
  split
  · rename_i v hv
    rw [Field.outcome_of_ok hv]
    rfl
  · rename_i e he
    rw [Field.outcome_of_error he]
    rfl

/-! ## All fields -/

/-- The report of some fields, before any value is derived. -/
def checkInputs (input : Json) (fs : List Field) : Report :=
  fs.foldl (Report.record input) .blank

variable {input : Json} {fs : List Field}

theorem checkInputs_concat (f : Field) :
    checkInputs input (fs ++ [f]) = (checkInputs input fs).record input f := by
  rw [checkInputs, List.foldl_append]
  rfl

/-- The outcome of a field after other fields. -/
def outcomeAfter (input : Json) (before : List Field) (f : Field) : Value × Option String :=
  f.outcome (f.rawInput? input) (checkInputs input before).fields

@[simp] theorem fields_checkInputs_concat (f : Field) :
    (checkInputs input (fs ++ [f])).fields =
      (checkInputs input fs).fields.insert f.name (outcomeAfter input fs f).1 := by
  rw [checkInputs_concat, record_eq]
  rfl

@[simp] theorem errors_checkInputs_concat (f : Field) :
    (checkInputs input (fs ++ [f])).errors =
      (checkInputs input fs).errors.insert f.name (outcomeAfter input fs f).2 := by
  rw [checkInputs_concat, record_eq]
  rfl

@[simp] theorem errorCount_checkInputs_concat (f : Field) :
    (checkInputs input (fs ++ [f])).errorCount =
      (checkInputs input fs).errorCount + if (outcomeAfter input fs f).2.isSome then 1 else 0 := by
  rw [checkInputs_concat, record_eq]
  rfl

/-- Nothing is recorded under names that are not those of fields. -/
theorem get?_checkInputs_of_not_mem {n : String} (h : n ∉ fs.map (·.name)) :
    (checkInputs input fs).fields.get? n = none ∧ (checkInputs input fs).errors.get? n = none := by
  induction fs using List.reverseRecOn with
  | nil => exact ⟨rfl, rfl⟩
  | append_singleton fs f ih =>
    rw [List.map_append, List.mem_append, not_or] at h
    have hne : n ≠ f.name := fun heq => h.2 (by simp [heq])
    simpa [hne] using ih h.1

/-- Inputs for which each field has the same outcome, whatever precedes it, have the same report. -/
theorem checkInputs_congr {other : Json} (h : ∀ f ∈ fs, ∀ prior : Fields,
    f.outcome (f.rawInput? input) prior = f.outcome (f.rawInput? other) prior) :
    checkInputs input fs = checkInputs other fs := by
  induction fs using List.reverseRecOn with
  | nil => rfl
  | append_singleton fs f ih =>
    have hbefore : checkInputs input fs = checkInputs other fs :=
      ih fun g hg => h g (List.mem_append_left _ hg)
    rw [checkInputs_concat, checkInputs_concat, record_eq, record_eq, hbefore, h f (by simp)]

/-- Each field stands in the report with the outcome that it had in its turn. -/
theorem eachAfter_checkInputs (hnodup : (fs.map (·.name)).Nodup) :
    EachAfter (fun before f =>
      (checkInputs input fs).fields.get? f.name = some (outcomeAfter input before f).1 ∧
      (checkInputs input fs).errors.get? f.name = some (outcomeAfter input before f).2) fs := by
  induction fs using List.reverseRecOn with
  | nil => exact eachAfter_nil _
  | append_singleton fs g ih =>
    rw [List.map_append, List.nodup_append'] at hnodup
    obtain ⟨hnodup, -, hdisjoint⟩ := hnodup
    refine eachAfter_concat.mpr ⟨fun before f after heq => ?_, by simp⟩
    have hmem : f.name ∈ fs.map (·.name) := List.mem_map_of_mem (by simp [heq])
    have hne : f.name ≠ g.name := fun h => hdisjoint hmem (by simp [h])
    simpa [hne] using ih hnodup before f after heq

theorem errorCount_checkInputs_eq_zero_iff :
    (checkInputs input fs).errorCount = 0 ↔
      EachAfter (fun before f => (outcomeAfter input before f).2 = none) fs := by
  induction fs using List.reverseRecOn with
  | nil => simp [checkInputs, Report.blank]
  | append_singleton fs f ih =>
    rw [errorCount_checkInputs_concat, eachAfter_concat, ← ih, Nat.add_eq_zero_iff]
    cases (outcomeAfter input fs f).2 <;> simp

/-- No message is counted exactly when every field is accepted. -/
theorem errorCount_eq_zero_iff_accepted (hnodup : (fs.map (·.name)).Nodup) :
    (checkInputs input fs).errorCount = 0 ↔
      ∀ f ∈ fs, (checkInputs input fs).errors.get? f.name = some none := by
  rw [errorCount_checkInputs_eq_zero_iff]
  constructor
  · intro h f hf
    obtain ⟨before, after, heq⟩ := List.append_of_mem hf
    rw [(eachAfter_checkInputs hnodup before f after heq).2, h before f after heq]
  · intro h before f after heq
    have hf := h f (by simp [heq])
    rw [(eachAfter_checkInputs hnodup before f after heq).2, Option.some.injEq] at hf
    exact hf

/-- Every field has a value, accepted or not. -/
theorem isSome_get?_checkInputs (hnodup : (fs.map (·.name)).Nodup) {n : String}
    (hn : n ∈ fs.map (·.name)) : ((checkInputs input fs).fields.get? n).isSome := by
  obtain ⟨f, hf, rfl⟩ := List.mem_map.mp hn
  obtain ⟨before, after, heq⟩ := List.append_of_mem hf
  rw [(eachAfter_checkInputs hnodup before f after heq).1]
  rfl

end Paperwork
