import Paperwork.Proofs.Expr.References
import Paperwork.Proofs.Text.Occurrences

/-!
# Splitting and picking

A text that is split has the pieces of `splitText`, and a piece is picked by its number. Splitting
loses nothing: joined with the delimiter the pieces are the text (`split_loses_nothing`), so a list
that was split at commas is shown as the text it was made of.
-/

namespace Paperwork

/-! ## Pieces as texts -/

variable {d t : String}

theorem splitText_empty (t : String) : splitText "" t = t.toList.map String.singleton := rfl

theorem splitText_of_ne_empty (h : d ≠ "") :
    splitText d t = (splitAll d.toList t.toList).map String.ofList := by
  rw [splitText, if_neg (mt beq_iff_eq.mp h)]

theorem toList_ne_nil (h : d ≠ "") : d.toList ≠ [] :=
  mt String.toList_eq_nil_iff.mp h

theorem intercalate_splitText (h : d ≠ "") : d.intercalate (splitText d t) = t := by
  rw [← String.toList_inj, String.toList_intercalate, splitText_of_ne_empty h, List.map_map]
  have hpieces : String.toList ∘ String.ofList = id := funext fun _ => String.toList_ofList
  rw [hpieces, List.map_id, intercalate_splitAll]

theorem not_infix_of_mem_splitText (h : d ≠ "") {piece : String} (hpiece : piece ∈ splitText d t) :
    ¬ d.toList <:+: piece.toList := by
  rw [splitText_of_ne_empty h] at hpiece
  obtain ⟨cs, hcs, rfl⟩ := List.mem_map.mp hpiece
  rw [String.toList_ofList]
  exact not_infix_of_mem_splitAll (toList_ne_nil h) hcs

theorem exists_occurrences_splitText (h : d ≠ "") (t : String) :
    ∃ places, Occurrences d.toList t.toList 0 places ∧
      (splitText d t).length = places.length + 1 := by
  rw [splitText_of_ne_empty h, List.length_map]
  exact exists_occurrences (toList_ne_nil h) t.toList 0

namespace Expr

variable {fields : Fields} {e : Expr}

/-! ## Values -/

theorem eval_split (h : e.eval fields = .ok (.text t)) :
    (split e d).eval fields = .ok (.list (splitText d t)) := by
  rw [eval, h]
  rfl

theorem eval_index {items : List String} (h : e.eval fields = .ok (.list items)) (k : UInt64) :
    (index e k).eval fields =
      if hk : k.toNat < items.length then .ok (.text items[k.toNat])
      else .error (.indexOutOfRange k items.length) := by
  have heval : (index e k).eval fields = itemAt k (.list items) := by
    rw [eval, h]
    rfl
  rw [heval, itemAt]
  split
  · rename_i item hitem
    obtain ⟨hk, rfl⟩ := List.getElem?_eq_some_iff.mp hitem
    rw [dif_pos hk]
  · rename_i hnone
    rw [dif_neg (Nat.not_lt_of_le (List.getElem?_eq_none_iff.mp hnone))]

theorem eval_concat_singleton {v : Value} (h : e.eval fields = .ok v) :
    (concat [e]).eval fields = .ok (.text v.display) := by
  have hshown : evalConcat fields [e] = .ok (v.display ++ "") := by
    rw [evalConcat, h]
    rfl
  rw [eval, hshown, String.append_empty]
  rfl

/--
A text is split into pieces that make up the text when they are joined with the delimiter. None of
them contains the delimiter, and there is one piece more than the delimiter has leftmost occurrences
that do not overlap. Without a delimiter the pieces are the characters. A piece is picked by any
number below that of the pieces, and there is none for other numbers. A text split at commas is
shown as it was.
-/
theorem split_loses_nothing (h : e.eval fields = .ok (.text t)) :
    (∀ d, ∃ pieces, (split e d).eval fields = .ok (.list pieces) ∧
      (d ≠ "" → pieces ≠ [] ∧ d.intercalate pieces = t ∧
        (∀ piece ∈ pieces, ¬ d.toList <:+: piece.toList) ∧
        ∃ places, Occurrences d.toList t.toList 0 places ∧
          (∀ others, Occurrences d.toList t.toList 0 others → others = places) ∧
          pieces.length = places.length + 1) ∧
      (d = "" → pieces = t.toList.map String.singleton) ∧
      ∀ k, (index (split e d) k).eval fields =
        if hk : k.toNat < pieces.length then .ok (.text pieces[k.toNat])
        else .error (.indexOutOfRange k pieces.length)) ∧
    (concat [split e ","]).eval fields = .ok (.text t) ∧
    (concat [e]).eval fields = .ok (.text t) := by
  refine ⟨fun d => ⟨splitText d t, eval_split h, fun hd => ?_, fun hd => ?_, fun k => ?_⟩, ?_, ?_⟩
  · obtain ⟨places, hplaces, hlength⟩ := exists_occurrences_splitText hd t
    refine ⟨?_, intercalate_splitText hd, fun piece => not_infix_of_mem_splitText hd, places,
      hplaces, fun others => hplaces.unique, hlength⟩
    rw [← List.length_pos_iff, hlength]
    exact Nat.succ_pos _
  · rw [hd, splitText_empty]
  · exact eval_index (eval_split h) k
  · rw [eval_concat_singleton (eval_split h), Value.display, intercalate_splitText (by decide)]
  · rw [eval_concat_singleton h, Value.display]

/-- Fields with a code in which the delimiter `aa` overlaps itself. -/
def codeFields : Fields := Dict.ofList [("code", .text "aaab")]

/-- Only the first of two occurrences that overlap is cut at. -/
theorem overlapping_split_loses_nothing :
    (field "code").eval codeFields = .ok (.text "aaab") ∧
      (split (field "code") "aa").eval codeFields = .ok (.list ["", "ab"]) ∧
      "aa".intercalate ["", "ab"] = "aaab" ∧
      (∃ places, Occurrences ['a', 'a'] ['a', 'a', 'a', 'b'] 0 places ∧ places.length = 1) ∧
      (index (split (field "code") "aa") 1).eval codeFields = .ok (.text "ab") ∧
      (index (split (field "code") "aa") 2).eval codeFields = .error (.indexOutOfRange 2 2) ∧
      (concat [split (field "code") ","]).eval codeFields = .ok (.text "aaab") := by
  have hcode : (field "code").eval codeFields = .ok (.text "aaab") := rfl
  have hcut : splitText "aa" "aaab" = ["", "ab"] := by decide +kernel
  have hpieces : (split (field "code") "aa").eval codeFields = .ok (.list ["", "ab"]) := by
    rw [eval_split hcode, hcut]
  obtain ⟨hsplit, hconcat, -⟩ := split_loses_nothing hcode
  obtain ⟨pieces, hcut, hjoined, -, hindex⟩ := hsplit "aa"
  obtain rfl : pieces = ["", "ab"] := by
    rw [hpieces] at hcut
    injection hcut with hcut
    injection hcut with hcut
    exact hcut.symm
  obtain ⟨-, htext, -, places, hplaces, -, hlength⟩ := hjoined (by decide)
  exact ⟨hcode, hpieces, htext, ⟨places, hplaces, Nat.succ.inj hlength.symm⟩, hindex 1, hindex 2,
    hconcat⟩

end Expr

end Paperwork
