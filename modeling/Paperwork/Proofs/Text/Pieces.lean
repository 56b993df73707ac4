import Paperwork.Text.Pieces
import Mathlib.Data.List.Infix

/-!
# The first occurrence of a separator

`splitFirst` cuts a text at the leftmost place where the separator stands
(`splitFirst_eq_some_iff`), and fails only if it stands nowhere (`splitFirst_eq_none_iff`).
-/

namespace Paperwork

variable {sep text a b : List Char} {c : Char}

/-- A text starts at no place of a stretch of another one. -/
def StartsNowhere (part text : List Char) (stretch : Nat) : Prop :=
  ∀ k < stretch, ¬ part <+: text.drop k

theorem startsNowhere_zero (part text : List Char) : StartsNowhere part text 0 :=
  fun _ hk => absurd hk (Nat.not_lt_zero _)

theorem startsNowhere_cons_succ {part rest : List Char} {n : Nat} :
    StartsNowhere part (c :: rest) (n + 1) ↔
      ¬ part <+: c :: rest ∧ StartsNowhere part rest n := by
  constructor
  · intro h
    exact ⟨h 0 (Nat.succ_pos n), fun k hk => h (k + 1) (Nat.succ_lt_succ hk)⟩
  · rintro ⟨hfirst, hrest⟩ k hk
    cases k with
    | zero => exact hfirst
    | succ k => exact hrest k (Nat.lt_of_succ_lt_succ hk)

/-- What starts at a place and ends within a text starts there in this text alone. -/
theorem prefix_drop_of_append {part more : List Char} {k : Nat}
    (h : part <+: (text ++ more).drop k) (hlength : k + part.length ≤ text.length) :
    part <+: text.drop k := by
  refine List.prefix_of_prefix_length_le h ?_ ?_
  · rw [List.drop_append_of_le_length (by omega)]
    exact List.prefix_append _ _
  · rw [List.length_drop]
    omega

/-- What starts at no place of a stretch does not when more text follows. -/
theorem StartsNowhere.append {part : List Char} {n : Nat} (h : StartsNowhere part text n)
    (hlength : n + part.length ≤ text.length) (more : List Char) :
    StartsNowhere part (text ++ more) n := by
  intro k hk hstart
  exact h k hk (prefix_drop_of_append hstart (by omega))

/-- Nothing starts in a stretch without its first character. -/
theorem startsNowhere_of_not_mem {part : List Char} (h : c ∉ a) (b : List Char) :
    StartsNowhere (c :: part) (a ++ b) a.length := by
  rintro k hk ⟨behind, hbehind⟩
  rw [List.drop_append_of_le_length (Nat.le_of_lt hk), List.drop_eq_getElem_cons hk] at hbehind
  obtain ⟨hc, -⟩ := List.cons.inj hbehind
  exact h (hc ▸ List.getElem_mem hk)

theorem splitFirst_cons_of_start {rest : List Char} (h : sep <+: c :: rest) :
    splitFirst sep (c :: rest) = some ([], (c :: rest).drop sep.length) := by
  rw [splitFirst, if_pos (List.isPrefixOf_iff_prefix.mpr h)]

theorem splitFirst_cons_of_not_start {rest : List Char} (h : ¬ sep <+: c :: rest) :
    splitFirst sep (c :: rest) = (splitFirst sep rest).map fun (a, b) => (c :: a, b) := by
  rw [splitFirst, if_neg (mt List.isPrefixOf_iff_prefix.mp h)]

theorem startsNowhere_of_splitFirst (h : splitFirst sep text = some (a, b)) :
    StartsNowhere sep text a.length := by
  induction text generalizing a with
  | nil =>
    have hnil : a = [] := by
      have htext := append_of_splitFirst h
      simp_all
    rw [hnil]
    exact startsNowhere_zero sep []
  | cons c rest ih =>
    by_cases hfirst : sep <+: c :: rest
    · rw [splitFirst_cons_of_start hfirst] at h
      cases h
      exact startsNowhere_zero sep _
    · rw [splitFirst_cons_of_not_start hfirst] at h
      obtain ⟨⟨a', b'⟩, hrest, heq⟩ := Option.map_eq_some_iff.mp h
      cases heq
      exact startsNowhere_cons_succ.mpr ⟨hfirst, ih hrest⟩

theorem splitFirst_append (h : StartsNowhere sep (a ++ sep ++ b) a.length) :
    splitFirst sep (a ++ sep ++ b) = some (a, b) := by
  induction a with
  | nil =>
    cases hsep : sep ++ b with
    | nil =>
      obtain ⟨rfl, rfl⟩ := List.append_eq_nil_iff.mp hsep
      rfl
    | cons c rest =>
      rw [List.nil_append, hsep, splitFirst_cons_of_start (hsep ▸ List.prefix_append sep b), ← hsep,
        List.drop_left]
  | cons c a ih =>
    rw [List.cons_append, List.cons_append] at h ⊢
    obtain ⟨hfirst, hrest⟩ := startsNowhere_cons_succ.mp h
    rw [splitFirst_cons_of_not_start hfirst, ih hrest]
    rfl

/-- A text is cut at the leftmost place where the separator stands. -/
theorem splitFirst_eq_some_iff :
    splitFirst sep text = some (a, b) ↔
      text = a ++ sep ++ b ∧ StartsNowhere sep text a.length := by
  constructor
  · intro h
    exact ⟨append_of_splitFirst h, startsNowhere_of_splitFirst h⟩
  · rintro ⟨rfl, h⟩
    exact splitFirst_append h

theorem splitFirst_isSome_of_contains (h : sep <:+: text) : (splitFirst sep text).isSome := by
  obtain ⟨before, after, rfl⟩ := h
  induction before with
  | nil =>
    have hfirst : splitFirst sep ([] ++ sep ++ after) = some ([], after) :=
      splitFirst_append (startsNowhere_zero sep _)
    rw [hfirst]
    rfl
  | cons c before ih =>
    rw [List.cons_append, List.cons_append]
    by_cases hfirst : sep <+: c :: (before ++ sep ++ after)
    · rw [splitFirst_cons_of_start hfirst]
      rfl
    · rw [splitFirst_cons_of_not_start hfirst, Option.isSome_map]
      exact ih

/-- A text is not cut only if the separator stands nowhere in it. -/
theorem splitFirst_eq_none_iff : splitFirst sep text = none ↔ ¬ sep <:+: text := by
  constructor
  · intro h hcontains
    have hsome := splitFirst_isSome_of_contains hcontains
    rw [h] at hsome
    cases hsome
  · intro h
    rw [Option.eq_none_iff_forall_ne_some]
    rintro ⟨a, b⟩ hsome
    exact h ⟨a, b, (append_of_splitFirst hsome).symm⟩

/-! ## A single character -/

theorem splitFirst_singleton_eq_some_iff :
    splitFirst [c] text = some (a, b) ↔ text = a ++ c :: b ∧ c ∉ a := by
  rw [splitFirst_eq_some_iff, List.append_assoc, List.singleton_append]
  refine and_congr_right fun htext => ?_
  constructor
  · intro h hmem
    obtain ⟨k, hk, hget⟩ := List.getElem_of_mem hmem
    refine h k hk ?_
    have hdrop : a.drop k = c :: a.drop (k + 1) := by rw [List.drop_eq_getElem_cons hk, hget]
    rw [htext, List.drop_append_of_le_length (Nat.le_of_lt hk), hdrop]
    exact ⟨a.drop (k + 1) ++ c :: b, rfl⟩
  · rintro h k hk ⟨behind, hbehind⟩
    refine h ?_
    rw [htext, List.drop_append_of_le_length (Nat.le_of_lt hk), List.drop_eq_getElem_cons hk] at hbehind
    obtain ⟨hc, -⟩ := List.cons.inj hbehind
    exact hc ▸ List.getElem_mem hk

theorem splitFirst_singleton_eq_none_iff : splitFirst [c] text = none ↔ c ∉ text := by
  rw [splitFirst_eq_none_iff, List.singleton_infix_iff]

end Paperwork
