import Paperwork.Field.Check
import Paperwork.Proofs.Report.Inputs
import Paperwork.Proofs.Value

/-!
# Checking a recorded value again

Filling in a default, the type of a field and the waiver of a dependency all leave alone what they
have produced. So a field that is given its recorded value records the same value, accepts what it
accepted and, unless the input had no value at all, rejects what it rejected (`outcome_again`).
-/

namespace Paperwork

namespace Field

variable {f : Field} {raw : Option Json} {prior : Fields} {v w : Value}

/-- The check of input that has a value. -/
def checkValue (f : Field) (v : Value) (prior : Fields) : Except Rejection Value :=
  if (f.fill v).isEmpty && f.required then
    if f.isWaived prior then .ok (f.fill v) else .error .missing
  else f.conform (f.fill v)

theorem check_of_ofRaw? (h : Value.ofRaw? raw = some v) :
    f.check raw prior = f.checkValue v prior := by
  rw [check, h]
  rfl

theorem check_of_ofRaw?_eq_none (h : Value.ofRaw? raw = none) :
    f.check raw prior = .error .unsupported := by
  rw [check, h]

/-! ## Values that are filled in and of the right type -/

@[simp] theorem fill_fill (f : Field) (v : Value) : f.fill (f.fill v) = f.fill v := by
  unfold fill
  by_cases h : v.isEmpty && !f.default.isEmpty
  · have hdefault : f.default.isEmpty = false := by
      rw [Bool.and_eq_true, Bool.not_eq_true'] at h
      exact h.2
    rw [if_pos h, if_neg (by simp [hdefault])]
  · rw [if_neg h, if_neg h]

theorem fill_of_not_isEmpty (h : v.isEmpty = false) : f.fill v = v := by
  rw [fill, if_neg (by simp [h])]

/-- A value of the right type stands as it is, or becomes a truth value. -/
theorem conform_eq_ok (h : f.conform v = .ok w) :
    w = v ∨ f.kind = .boolean ∧ ∃ b, w = .flag b := by
  unfold conform at h
  split at h
  · split at h
    · cases h
      exact .inl rfl
    · cases h
  · cases h
  · cases h
    exact .inl rfl
  · rename_i hkind
    split at h
    · cases h
      exact .inr ⟨hkind, _, rfl⟩
    · cases h
  · cases h
  · cases h
    exact .inl rfl
  · cases h
    exact .inl rfl
  · cases h
  · cases h

theorem checkValue_flag (hkind : f.kind = .boolean) (b : Bool) :
    f.checkValue (.flag b) prior = .ok (.flag b) := by
  have hfill : f.fill (.flag b) = .flag b := fill_of_not_isEmpty rfl
  rw [checkValue, hfill, if_neg (by simp [Value.isEmpty])]
  unfold conform
  rw [hkind]

/-- What a field has accepted it accepts as it is. -/
theorem checkValue_again (h : f.checkValue v prior = .ok w) : f.checkValue w prior = .ok w := by
  have hfilled : f.checkValue (f.fill v) prior = f.checkValue v prior := by
    rw [checkValue, checkValue, fill_fill]
  rw [checkValue] at h
  by_cases hempty : (f.fill v).isEmpty && f.required
  · rw [if_pos hempty] at h
    by_cases hwaived : f.isWaived prior
    · rw [if_pos hwaived] at h
      cases h
      rw [hfilled, checkValue, if_pos hempty, if_pos hwaived]
    · rw [if_neg hwaived] at h
      cases h
  · rw [if_neg hempty] at h
    rcases conform_eq_ok h with rfl | ⟨hkind, b, rfl⟩
    · rw [hfilled, checkValue, if_neg hempty]
      exact h
    · exact checkValue_flag hkind b

end Field

/-! ## Texts that start with a bracket -/

theorem lower_of_startsWithBracket {s : String} (h : Value.StartsWithBracket s) :
    Value.StartsWithBracket (Unicode.lower s) := by
  obtain ⟨rest, h | h⟩ := h
  · refine ⟨Unicode.lowerFrom ['['] rest, .inl ?_⟩
    rw [Unicode.lower, String.toList_ofList, h, Unicode.lowerFrom]
    rfl
  · refine ⟨Unicode.lowerFrom ['\x7b'] rest, .inr ?_⟩
    rw [Unicode.lower, String.toList_ofList, h, Unicode.lowerFrom]
    rfl

theorem truthOf?_of_startsWithBracket {s : String} (h : Value.StartsWithBracket s) :
    truthOf? s = none := by
  have hheads : ∀ t ∈ falseTokens ++ trueTokens,
      t.toList.head? ≠ some '[' ∧ t.toList.head? ≠ some '\x7b' := by decide
  have htoken : ∀ t ∈ falseTokens ++ trueTokens, ¬ Value.StartsWithBracket t := by
    rintro t ht ⟨rest, h | h⟩
    · exact (hheads t ht).1 (by rw [h, List.head?_cons])
    · exact (hheads t ht).2 (by rw [h, List.head?_cons])
  have hlower := lower_of_startsWithBracket h
  rw [truthOf?]
  have hfalse : Unicode.lower s ∉ falseTokens := fun hmem =>
    htoken _ (List.mem_append_left _ hmem) hlower
  have htrue : Unicode.lower s ∉ trueTokens := fun hmem =>
    htoken _ (List.mem_append_right _ hmem) hlower
  simp [hfalse, htrue]

namespace Field

variable {f : Field} {raw : Option Json} {prior : Fields}

/-- A text that starts with a bracket is recorded as it is, whatever the field makes of it. -/
theorem outcome_of_startsWithBracket {s : String} (h : Value.StartsWithBracket s) :
    (f.outcome (some (.text s)) prior).1 = .text s := by
  have hempty : (Value.text s).isEmpty = false := by
    simpa [Value.isEmpty] using h.ne_empty
  have hcheck : f.check (some (.text s)) prior = f.conform (.text s) := by
    rw [check_of_ofRaw? (v := .text s) rfl, checkValue, fill_of_not_isEmpty hempty, hempty]
    rfl
  cases hconform : f.conform (.text s) with
  | error e => rw [outcome_of_error (hcheck.trans hconform)]; rfl
  | ok v =>
    rw [outcome_of_ok (hcheck.trans hconform)]
    rcases conform_eq_ok hconform with rfl | ⟨hkind, b, rfl⟩
    · rfl
    · simp [conform, hkind, truthOf?_of_startsWithBracket h] at hconform

/-! ## The outcome for a recorded value -/

/-- The value of raw input stands for the raw input. -/
theorem outcome_toJson {w : Value} (h : Value.ofRaw? raw = some w) :
    f.outcome (some w.toJson) prior = f.outcome raw prior := by
  have hcheck : f.check (some w.toJson) prior = f.check raw prior := by
    rw [check_of_ofRaw? (Value.ofRaw?_toJson w), check_of_ofRaw? h]
  rw [outcome, outcome, hcheck, Value.echo_eq_of_ofRaw? (Value.ofRaw?_toJson w),
    Value.echo_eq_of_ofRaw? h]

/-- A field that is given what it has recorded for input with a value. -/
theorem outcome_again_of_ofRaw? {w : Value} (h : Value.ofRaw? raw = some w) :
    f.outcome (some (f.outcome raw prior).1.toJson) prior = f.outcome raw prior := by
  cases hcheck : f.checkValue w prior with
  | ok v =>
    rw [outcome_of_ok ((check_of_ofRaw? h).trans hcheck)]
    exact outcome_of_ok
      ((check_of_ofRaw? (Value.ofRaw?_toJson v)).trans (checkValue_again hcheck))
  | error e =>
    have hfirst : (f.outcome raw prior).1 = w := by
      rw [outcome_of_error ((check_of_ofRaw? h).trans hcheck), Value.echo_eq_of_ofRaw? h]
    rw [hfirst]
    exact outcome_toJson h

/-- A field that is given the value it has recorded. -/
theorem outcome_again (f : Field) (raw : Option Json) (prior : Fields) :
    let first := f.outcome raw prior
    let again := f.outcome (some first.1.toJson) prior
    again.1 = first.1 ∧ (first.2 = none → again.2 = none) ∧
      (Value.IsPlain raw → again.2 = first.2) := by
  intro first again
  cases hraw : Value.ofRaw? raw with
  | none =>
    have hfirst : first = (Value.echo raw, some (f.rejectionMessage .unsupported)) :=
      outcome_of_error (check_of_ofRaw?_eq_none hraw)
    obtain ⟨s, hs, hstarts⟩ := Value.exists_echo_of_ofRaw?_eq_none hraw
    refine ⟨?_, fun h => ?_, fun h => ?_⟩
    · show (f.outcome (some first.1.toJson) prior).1 = first.1
      rw [hfirst, hs]
      exact outcome_of_startsWithBracket hstarts
    · rw [hfirst] at h
      cases h
    · rw [← Value.isSome_ofRaw?_iff, hraw] at h
      cases h
  | some w =>
    have hagain : again = first := outcome_again_of_ofRaw? hraw
    rw [hagain]
    exact ⟨rfl, id, fun _ => rfl⟩

end Field

end Paperwork
