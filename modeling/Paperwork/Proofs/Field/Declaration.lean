import Paperwork.Field.Basic
import Paperwork.Proofs.Outcome

/-!
# Fields of definitions

A definition makes a field exactly when a choice has options and a default that is given is of the
type of the field (`Field.exists_ofDefinition_iff`).
-/

namespace Paperwork

/-! ## Defaults that fit -/

/-- Texts that stand for a truth value. -/
def IsTruthToken (s : String) : Prop :=
  Unicode.lower s ∈ falseTokens ∨ Unicode.lower s ∈ trueTokens

theorem truthOf?_isSome_iff {s : String} : (∃ b, truthOf? s = some b) ↔ IsTruthToken s := by
  unfold truthOf? IsTruthToken
  by_cases hf : Unicode.lower s ∈ falseTokens
  · simp [hf]
  · by_cases ht : Unicode.lower s ∈ trueTokens <;> simp [hf, ht]

/-- A default of the type of a field: for a choice, one of its options. -/
def FieldKind.Admits (options : List String) : FieldKind → Json → Prop
  | boolean, raw => (∃ b, raw = .bool b) ∨ ∃ s, raw = .text s ∧ IsTruthToken s
  | choice, raw => ∃ s ∈ options, raw = .text s
  | string, raw | longText, raw => (∃ s, raw = .text s) ∨ ∃ n, raw = .number n

namespace FieldDefinition

/-- A choice has at least one option. -/
def HasOptions (d : FieldDefinition) : Prop :=
  d.kind = .choice → ∃ options, d.options = some options ∧ options ≠ []

/-- A default other than null is of the type of the field. -/
def DefaultFits (d : FieldDefinition) : Prop :=
  ∀ raw, d.default = some raw → raw ≠ .null → d.kind.Admits (d.options.getD []) raw

end FieldDefinition

/-! ## Making the field -/

namespace Field

theorem optionsOf_eq_ok_iff {d : FieldDefinition} {options : List String} :
    optionsOf d = .ok options ↔
      if d.kind = .choice then d.options = some options ∧ options ≠ [] else options = [] := by
  unfold optionsOf
  cases hkind : d.kind with
  | choice =>
    rcases hoptions : d.options with _ | _ | ⟨o, os⟩
    · simp
    · simp
    · simp only [Except.ok.injEq, Option.some.injEq, if_true]
      exact ⟨fun h => ⟨h, h ▸ List.cons_ne_nil o os⟩, And.left⟩
  | _ => simp [eq_comm]

theorem exists_givenDefault_iff {kind : FieldKind} {options : List String} {raw : Json} :
    (∃ v, givenDefault kind options raw = .ok v) ↔ kind.Admits options raw := by
  cases kind with
  | boolean =>
    cases raw with
    | text s =>
      have htoken := truthOf?_isSome_iff (s := s)
      cases h : truthOf? s <;> simpa [givenDefault, FieldKind.Admits, h] using htoken
    | _ => simp [givenDefault, FieldKind.Admits]
  | choice =>
    cases raw with
    | text s => by_cases h : s ∈ options <;> simp [givenDefault, FieldKind.Admits, h]
    | _ => simp [givenDefault, FieldKind.Admits]
  | string | longText => cases raw <;> simp [givenDefault, FieldKind.Admits]

theorem exists_defaultOf_iff {d : FieldDefinition} {options : List String} :
    (∃ v, defaultOf d options = .ok v) ↔
      ∀ raw, d.default = some raw → raw ≠ .null → d.kind.Admits options raw := by
  unfold defaultOf
  split
  · rename_i hnone
    simp [hnone]
  · rename_i hnull
    simp [hnull]
  · rename_i raw hnull hsome
    rw [exists_givenDefault_iff]
    refine ⟨fun h raw' heq _ => ?_, fun h => h raw hsome ?_⟩
    · rw [hsome, Option.some.injEq] at heq
      exact heq ▸ h
    · rintro rfl
      exact hnull rfl

theorem admits_of_optionsOf {d : FieldDefinition} {options : List String} {raw : Json}
    (h : optionsOf d = .ok options) :
    d.kind.Admits options raw ↔ d.kind.Admits (d.options.getD []) raw := by
  rw [optionsOf_eq_ok_iff] at h
  cases hkind : d.kind with
  | choice =>
    rw [hkind, if_pos rfl] at h
    rw [h.1, Option.getD_some]
  | _ => rfl

/-- A field can be made of the definitions whose options and default are right. -/
theorem exists_ofDefinition_iff {d : FieldDefinition} (name : String) (group : Option String) :
    (∃ f, Field.ofDefinition d name group = .ok f) ↔ d.HasOptions ∧ d.DefaultFits := by
  have hoptions : d.HasOptions ↔ ∃ options, optionsOf d = .ok options := by
    simp only [optionsOf_eq_ok_iff, FieldDefinition.HasOptions]
    by_cases hkind : d.kind = .choice <;> simp [hkind]
  rw [hoptions]
  simp only [Field.ofDefinition, bind_eq_ok_iff, pure_eq_ok_iff]
  constructor
  · rintro ⟨_, options, ho, v, hv, -⟩
    refine ⟨⟨options, ho⟩, fun raw hraw hnull => (admits_of_optionsOf ho).mp ?_⟩
    exact exists_defaultOf_iff.mp ⟨v, hv⟩ raw hraw hnull
  · rintro ⟨⟨options, ho⟩, hfits⟩
    obtain ⟨v, hv⟩ := exists_defaultOf_iff.mpr fun raw hraw hnull =>
      (admits_of_optionsOf ho).mpr (hfits raw hraw hnull)
    exact ⟨_, options, ho, v, hv, rfl⟩

theorem name_of_ofDefinition {d : FieldDefinition} {name : String} {group : Option String}
    {f : Field} (h : Field.ofDefinition d name group = .ok f) : f.name = name := by
  simp only [Field.ofDefinition, bind_eq_ok_iff, pure_eq_ok_iff] at h
  obtain ⟨_, _, _, _, rfl⟩ := h
  rfl

theorem dependsOn_of_ofDefinition {d : FieldDefinition} {name : String} {group : Option String}
    {f : Field} (h : Field.ofDefinition d name group = .ok f) :
    f.dependsOn = d.dependsOn ∧ f.group = group := by
  simp only [Field.ofDefinition, bind_eq_ok_iff, pure_eq_ok_iff] at h
  obtain ⟨_, _, _, _, rfl⟩ := h
  exact ⟨rfl, rfl⟩

end Field

end Paperwork
