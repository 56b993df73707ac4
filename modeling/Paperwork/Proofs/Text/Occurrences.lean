import Paperwork.Proofs.Text.Pieces

/-!
# Cutting at every occurrence of a separator

The separator is found at its leftmost occurrences that do not overlap (`Occurrences`), and a text
has one list of those. Cutting there gives one piece more than there are occurrences
(`exists_occurrences`); no piece contains the separator, and joined with it the pieces are the text
(`intercalate_splitAll`).
-/

namespace Paperwork

variable {sep text a b : List Char}

/-- The places, from a place on, of the leftmost occurrences of a separator that do not overlap. -/
inductive Occurrences (sep text : List Char) : Nat → List Nat → Prop
  | done {i : Nat} (h : ∀ k, i ≤ k → ¬ sep <+: text.drop k) : Occurrences sep text i []
  | next {i k : Nat} {others : List Nat} (le : i ≤ k) (here : sep <+: text.drop k)
      (leftmost : ∀ j, i ≤ j → j < k → ¬ sep <+: text.drop j)
      (later : Occurrences sep text (k + sep.length) others) : Occurrences sep text i (k :: others)

/-- There is only one list of such places. -/
theorem Occurrences.unique {i : Nat} {places others : List Nat} (h : Occurrences sep text i places)
    (hothers : Occurrences sep text i others) : others = places := by
  induction h generalizing others with
  | done hnone =>
    cases hothers with
    | done => rfl
    | next le here => exact absurd here (hnone _ le)
  | @next i k places le here leftmost later ih =>
    cases hothers with
    | done hnone => exact absurd here (hnone k le)
    | @next _ j _ le' here' leftmost' later' =>
      obtain rfl : j = k := by
        rcases Nat.lt_trichotomy j k with hlt | heq | hgt
        · exact absurd here' (leftmost j le' hlt)
        · exact heq
        · exact absurd here (leftmost' k le hgt)
      rw [ih later']

/-! ## The first piece -/

theorem startsNowhere_drop_iff {i n : Nat} :
    StartsNowhere sep (text.drop i) n ↔ ∀ j, i ≤ j → j < i + n → ¬ sep <+: text.drop j := by
  unfold StartsNowhere
  constructor
  · intro h j hij hj
    have hdrop := h (j - i) (by omega)
    rwa [List.drop_drop, Nat.add_sub_cancel' hij] at hdrop
  · intro h k hk
    rw [List.drop_drop]
    exact h (i + k) (Nat.le_add_right i k) (by omega)

/-- What stands before the leftmost occurrence does not contain the separator. -/
theorem not_infix_of_splitFirst (hsep : sep ≠ []) (h : splitFirst sep text = some (a, b)) :
    ¬ sep <:+: a := by
  obtain ⟨htext, hleftmost⟩ := splitFirst_eq_some_iff.mp h
  rintro ⟨front, back, rfl⟩
  have hpos : 0 < sep.length := List.length_pos_iff.mpr hsep
  refine hleftmost front.length (by simp only [List.length_append]; omega) ?_
  rw [htext, List.append_assoc, List.append_assoc, List.append_assoc, List.drop_left]
  exact List.prefix_append sep _

/-! ## All pieces -/

theorem splitAll_of_none (hsep : sep ≠ []) (h : splitFirst sep text = none) :
    splitAll sep text = [text] := by
  rw [splitAll, dif_neg hsep]
  split
  · rfl
  · rename_i hsome
    rw [h] at hsome
    cases hsome

theorem splitAll_of_some (hsep : sep ≠ []) (h : splitFirst sep text = some (a, b)) :
    splitAll sep text = a :: splitAll sep b := by
  rw [splitAll, dif_neg hsep]
  split
  · rename_i hnone
    rw [h] at hnone
    cases hnone
  · rename_i hsome
    rw [h] at hsome
    cases hsome
    rfl

theorem splitAll_ne_nil (sep text : List Char) : splitAll sep text ≠ [] := by
  rw [splitAll]
  split
  · exact List.cons_ne_nil _ _
  · split <;> exact List.cons_ne_nil _ _

/-- A text is one piece, or a piece with the separator and the pieces of the rest behind it. -/
@[elab_as_elim]
theorem splitAll_induction (hsep : sep ≠ []) {motive : List Char → Prop}
    (whole : ∀ text, splitFirst sep text = none → motive text)
    (cut : ∀ text a b, splitFirst sep text = some (a, b) → motive b → motive text)
    (text : List Char) : motive text := by
  induction hn : text.length using Nat.strongRecOn generalizing text with
  | ind n ih =>
    cases hfirst : splitFirst sep text with
    | none => exact whole text hfirst
    | some pair =>
      obtain ⟨a, b⟩ := pair
      have hpos : 0 < sep.length := List.length_pos_iff.mpr hsep
      have hlength := congrArg List.length (append_of_splitFirst hfirst)
      simp only [List.length_append] at hlength
      exact cut text a b hfirst (ih b.length (by omega) b rfl)

theorem intercalate_splitAll (sep text : List Char) : sep.intercalate (splitAll sep text) = text := by
  by_cases hsep : sep = []
  · rw [splitAll, dif_pos hsep, List.intercalate_singleton]
  · induction text using splitAll_induction hsep with
    | whole text hnone => rw [splitAll_of_none hsep hnone, List.intercalate_singleton]
    | cut text a b hsome ih =>
      rw [splitAll_of_some hsep hsome, List.intercalate_cons_of_ne_nil (splitAll_ne_nil sep b), ih]
      exact (append_of_splitFirst hsome).symm

theorem not_infix_of_mem_splitAll (hsep : sep ≠ []) {piece : List Char}
    (h : piece ∈ splitAll sep text) : ¬ sep <:+: piece := by
  induction text using splitAll_induction hsep with
  | whole text hnone =>
    rw [splitAll_of_none hsep hnone, List.mem_singleton] at h
    rw [h]
    exact splitFirst_eq_none_iff.mp hnone
  | cut text a b hsome ih =>
    rw [splitAll_of_some hsep hsome] at h
    rcases List.mem_cons.mp h with rfl | h
    · exact not_infix_of_splitFirst hsep hsome
    · exact ih h

/-- From any place on there is one piece more than there are occurrences. -/
theorem exists_occurrences (hsep : sep ≠ []) (text : List Char) (i : Nat) :
    ∃ places, Occurrences sep text i places ∧
      (splitAll sep (text.drop i)).length = places.length + 1 := by
  induction hrest : text.drop i using splitAll_induction hsep generalizing i with
  | whole rest hnone =>
    refine ⟨[], .done fun k hk hstart => ?_, by rw [splitAll_of_none hsep hnone]; rfl⟩
    refine splitFirst_eq_none_iff.mp hnone ?_
    rw [← hrest, List.infix_iff_prefix_suffix]
    refine ⟨text.drop k, hstart, ?_⟩
    rw [← Nat.add_sub_cancel' hk, ← List.drop_drop]
    exact List.drop_suffix _ _
  | cut rest a b hsome ih =>
    obtain ⟨hcut, hleftmost⟩ := splitFirst_eq_some_iff.mp hsome
    rw [← hrest, startsNowhere_drop_iff] at hleftmost
    have hhere : text.drop (i + a.length) = sep ++ b := by
      rw [← List.drop_drop, hrest, hcut, List.append_assoc, List.drop_left]
    have hbehind : text.drop (i + a.length + sep.length) = b := by
      rw [← List.drop_drop, hhere, List.drop_left]
    obtain ⟨places, hplaces, hlength⟩ := ih _ hbehind
    refine ⟨(i + a.length) :: places, .next (Nat.le_add_right _ _) ?_ hleftmost hplaces, ?_⟩
    · rw [hhere]
      exact List.prefix_append sep b
    · rw [splitAll_of_some hsep hsome, List.length_cons, hlength, List.length_cons]

end Paperwork
