import Paperwork.Proofs.Field.Check
import Paperwork.Proofs.Field.Declaration

/-!
# Types of values

A field is made with a default of its own type (`hasType_default`), and what passes the last rule of
a check is of that type (`hasType_of_conform`). The only way around that rule is the one for a
dependency that does not hold. It lets an empty list through as it is, and nothing else that is not
of the type of the field (`hasType_of_check`).
-/

namespace Paperwork

/-- A value of a type: for a choice, one of its options. -/
def FieldKind.Holds (options : List String) : FieldKind → Value → Prop
  | boolean, v => ∃ b, v = .flag b
  | choice, v => ∃ s ∈ options, v = .text s
  | string, v | longText, v => ∃ s, v = .text s

namespace Field

variable {f : Field} {raw : Option Json} {prior : Fields} {v w : Value}

/-- A value is of the type of a field. -/
def HasType (f : Field) (v : Value) : Prop := f.kind.Holds f.options v

/-- No field has the type of a list. -/
theorem not_hasType_list (f : Field) (items : List String) : ¬ f.HasType (.list items) := by
  unfold HasType
  cases f.kind <;> simp [FieldKind.Holds]

/-! ## Defaults -/

theorem holds_impliedDefault {kind : FieldKind} {options : List String}
    (h : kind = .choice → options ≠ []) : kind.Holds options (impliedDefault kind options) := by
  cases kind with
  | boolean => exact ⟨false, rfl⟩
  | choice =>
    obtain ⟨o, os, rfl⟩ := List.exists_cons_of_ne_nil (h rfl)
    exact ⟨o, List.mem_cons_self, rfl⟩
  | string | longText => exact ⟨"", rfl⟩

theorem holds_of_givenDefault {kind : FieldKind} {options : List String} {json : Json}
    (h : givenDefault kind options json = .ok v) : kind.Holds options v := by
  unfold givenDefault at h
  split at h
  · cases h
    exact ⟨_, rfl⟩
  · split at h
    · cases h
      exact ⟨_, rfl⟩
    · cases h
  · rename_i s
    split at h
    · rename_i hs
      cases h
      exact ⟨s, by simpa using hs, rfl⟩
    · cases h
  · cases h
  · cases h
    exact ⟨_, rfl⟩
  · cases h
    exact ⟨_, rfl⟩
  · cases h
    exact ⟨_, rfl⟩
  · cases h
    exact ⟨_, rfl⟩
  · cases h

/-- The default of a field is of its type. -/
theorem hasType_default {d : FieldDefinition} {name : String} {group : Option String}
    (h : Field.ofDefinition d name group = .ok f) : f.HasType f.default := by
  simp only [Field.ofDefinition, bind_eq_ok_iff, pure_eq_ok_iff] at h
  obtain ⟨options, hoptions, default, hdefault, rfl⟩ := h
  show d.kind.Holds options default
  unfold defaultOf at hdefault
  have himplied : d.kind.Holds options (impliedDefault d.kind options) := by
    refine holds_impliedDefault fun hkind => ?_
    rw [optionsOf_eq_ok_iff, if_pos hkind] at hoptions
    exact hoptions.2
  split at hdefault
  · cases hdefault
    exact himplied
  · cases hdefault
    exact himplied
  · exact holds_of_givenDefault hdefault

/-! ## Checked values -/

theorem hasType_of_conform (h : f.conform v = .ok w) : f.HasType w := by
  unfold HasType
  unfold conform at h
  split at h
  · rename_i s hkind
    rw [hkind]
    split at h
    · rename_i hs
      cases h
      exact ⟨s, by simpa using hs, rfl⟩
    · cases h
  · cases h
  · rename_i hkind
    cases h
    rw [hkind]
    exact ⟨_, rfl⟩
  · rename_i hkind
    split at h
    · cases h
      rw [hkind]
      exact ⟨_, rfl⟩
    · cases h
  · cases h
  · rename_i hkind
    cases h
    rw [hkind]
    exact ⟨_, rfl⟩
  · rename_i hkind
    cases h
    rw [hkind]
    exact ⟨_, rfl⟩
  · cases h
  · cases h

/-- A value of the type of a field stands as it is. -/
theorem conform_of_hasType (h : f.HasType v) : f.conform v = .ok v := by
  unfold HasType at h
  unfold conform
  cases hkind : f.kind with
  | boolean =>
    rw [hkind] at h
    obtain ⟨b, rfl⟩ := h
    rfl
  | choice =>
    rw [hkind] at h
    obtain ⟨s, hs, rfl⟩ := h
    exact if_pos (by simpa using hs)
  | string | longText =>
    rw [hkind] at h
    obtain ⟨s, rfl⟩ := h
    rfl

/--
The input of a required field without a default is an empty list, and what the field depends on does
not hold.
-/
structure KeepsEmptyList (f : Field) (raw : Option Json) (prior : Fields) : Prop where
  raw_eq : raw = some (.array [])
  required : f.required = true
  no_default : f.default.isEmpty = true
  waived : f.isWaived prior = true

theorem ofRaw?_eq_list_nil_iff : Value.ofRaw? raw = some (.list []) ↔ raw = some (.array []) := by
  constructor
  · intro h
    rcases raw with _ | (_ | b | n | s | (_ | ⟨i, items⟩) | members)
    case some.array.nil => rfl
    case some.array.cons => cases i <;> simp [Value.ofRaw?, Value.textItems?] at h
    all_goals simp [Value.ofRaw?, Value.empty] at h
  · rintro rfl
    rfl

theorem check_of_keepsEmptyList (h : f.KeepsEmptyList raw prior) :
    f.check raw prior = .ok (.list []) := by
  have hfill : f.fill (.list []) = .list [] := by rw [fill, if_neg (by simp [h.no_default])]
  rw [check_of_ofRaw? (ofRaw?_eq_list_nil_iff.mpr h.raw_eq), checkValue, hfill,
    if_pos (by simp [Value.isEmpty, h.required]), if_pos h.waived]

/-- What stays empty after the default was filled in had no default to give way to. -/
theorem fill_of_isEmpty (h : (f.fill v).isEmpty = true) :
    f.fill v = v ∧ f.default.isEmpty = true := by
  unfold fill at h ⊢
  by_cases hfilled : v.isEmpty && !f.default.isEmpty
  · rw [if_pos hfilled] at h
    simp [h] at hfilled
  · rw [if_neg hfilled] at h ⊢
    exact ⟨rfl, by simpa [h] using hfilled⟩

/-- The only value of the type of a field that counts as none is the empty text. -/
theorem HasType.eq_empty (h : f.HasType v) (hempty : v.isEmpty = true) : v = .empty := by
  cases v with
  | text s => rw [Value.empty, show s = "" by simpa [Value.isEmpty] using hempty]
  | flag b => simp [Value.isEmpty] at hempty
  | list items => exact absurd h (not_hasType_list f items)

/-- An accepted value is of the type of its field, or it is an empty list that is kept. -/
theorem hasType_of_check (hdefault : f.HasType f.default) (h : f.check raw prior = .ok w) :
    f.HasType w ∨ w = .list [] ∧ f.KeepsEmptyList raw prior := by
  cases hraw : Value.ofRaw? raw with
  | none =>
    rw [check_of_ofRaw?_eq_none hraw] at h
    cases h
  | some v =>
    rw [check_of_ofRaw? hraw, checkValue] at h
    by_cases hempty : (f.fill v).isEmpty && f.required
    · rw [if_pos hempty] at h
      rw [Bool.and_eq_true] at hempty
      by_cases hwaived : f.isWaived prior
      · rw [if_pos hwaived] at h
        cases h
        obtain ⟨hfill, hnone⟩ := fill_of_isEmpty hempty.1
        rw [hfill] at hempty ⊢
        cases v with
        | text s =>
          have hs : s = "" := by simpa [Value.isEmpty] using hempty.1
          rw [hdefault.eq_empty hnone] at hdefault
          exact .inl (hs ▸ hdefault)
        | flag b => simp [Value.isEmpty] at hempty
        | list items =>
          have hitems : items = [] := by simpa [Value.isEmpty] using hempty.1
          subst hitems
          exact .inr ⟨rfl, ofRaw?_eq_list_nil_iff.mp hraw, hempty.2, hnone, hwaived⟩
      · rw [if_neg hwaived] at h
        cases h
    · rw [if_neg hempty] at h
      exact .inl (hasType_of_conform h)

end Field

end Paperwork
