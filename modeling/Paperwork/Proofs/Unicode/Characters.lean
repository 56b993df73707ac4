import Paperwork.Unicode.CodeSet

/-!
# Characters in sets of code points

Code points of characters lie below or above the surrogates. Leaving the surrogates out of a set is
done on its complement (`characters_eq`), and leaves a set of one character as it is
(`characters_single`).
-/

namespace Paperwork.Unicode

/-- The code point of a character is no surrogate. -/
theorem isCode (c : Char) : c.toNat ≤ 0xD7FF ∨ 0xE000 ≤ c.toNat ∧ c.toNat ≤ 0x10FFFF := by
  have hvalid : c.toNat < 0xD800 ∨ 0xDFFF < c.toNat ∧ c.toNat < 0x110000 := c.valid
  omega

namespace CodeSet

variable {s : CodeSet} {sorted : List (Nat × Nat)} {n : Nat}

theorem contains_single {c d : Char} : (single c.toNat).contains d.toNat ↔ c = d := by
  simp only [single, range, contains, inRanges, Bool.or_false, Bool.and_eq_true, decide_eq_true_eq]
  constructor
  · rintro ⟨hle, hge⟩
    exact Char.toNat_inj.mp (Nat.le_antisymm hle hge)
  · rintro rfl
    exact ⟨Nat.le_refl _, Nat.le_refl _⟩

/-- The surrogates are put among the ranges of the complement. -/
theorem characters_eq
    (h : (s.complement.ranges ++ [(0xD800, 0xDFFF)]).mergeSort (fun a b : Nat × Nat => a.1 ≤ b.1) =
      sorted) : s.characters = complement ⟨merge sorted⟩ := by
  have hrange : ((range 0xD800 0xDFFF).complement).complement.ranges = [(0xD800, 0xDFFF)] := by
    decide
  unfold characters diff inter union ofRanges
  rw [hrange, h]

/-! ## One code point -/

theorem complement_single (hpos : 0 < n) (hlast : n < lastCode) :
    (single n).complement.ranges = [(0, n - 1), (n + 1, lastCode)] := by
  simp only [complement, complement.go, single, range, if_pos hpos, if_pos (Nat.succ_le_of_lt hlast)]

theorem complement_around (hpos : 0 < n) : complement ⟨[(0, n - 1), (n + 1, lastCode)]⟩ = single n := by
  have hn : n - 1 + 1 = n := by omega
  simp [complement, complement.go, lastCode, single, range, hn]

/-- Surrogates above a code point are among all that lies above it. -/
theorem merge_below (hpos : 0 < n) :
    merge [(0, n - 1), (n + 1, lastCode), (0xD800, 0xDFFF)] = [(0, n - 1), (n + 1, lastCode)] := by
  have hgap : ¬ n + 1 ≤ n - 1 + 1 := by omega
  simp [merge, merge.go, lastCode, hgap]

/-- Surrogates below a code point are among all that lies below it. -/
theorem merge_above (h : 0xE000 ≤ n) :
    merge [(0, n - 1), (0xD800, 0xDFFF), (n + 1, lastCode)] = [(0, n - 1), (n + 1, lastCode)] := by
  have hover : 0xD800 ≤ n - 1 + 1 := by omega
  have hmax : max (n - 1) 0xDFFF = n - 1 := by omega
  have hgap : ¬ n + 1 ≤ n - 1 + 1 := by omega
  simp [merge, merge.go, lastCode, hover, hmax, hgap]

theorem mergeSort_swap {x y z : Nat × Nat} (hxz : x.1 ≤ z.1) (hzy : z.1 < y.1) :
    [x, y, z].mergeSort (fun a b : Nat × Nat => a.1 ≤ b.1) = [x, z, y] := by
  have hxy : x.1 ≤ y.1 := by omega
  simp [List.mergeSort, List.MergeSort.Internal.splitInTwo, hxz, hxy, hzy]

theorem characters_single (c : Char) : (single c.toNat).characters = single c.toNat := by
  have hcode := isCode c
  generalize c.toNat = n at hcode ⊢
  rcases Nat.eq_zero_or_pos n with rfl | hpos
  · rw [characters_eq (List.mergeSort_of_pairwise (by decide))]
    rfl
  rcases Nat.lt_or_ge n lastCode with hlast | hlast
  · rcases hcode with hlow | ⟨hhigh, -⟩
    · have hsorted : ((single n).complement.ranges ++ [(0xD800, 0xDFFF)]).mergeSort
          (fun a b : Nat × Nat => a.1 ≤ b.1) = [(0, n - 1), (n + 1, lastCode), (0xD800, 0xDFFF)] := by
        rw [complement_single hpos hlast]
        exact List.mergeSort_of_pairwise (by simp; omega)
      rw [characters_eq hsorted, merge_below hpos, complement_around hpos]
    · have hsorted : ((single n).complement.ranges ++ [(0xD800, 0xDFFF)]).mergeSort
          (fun a b : Nat × Nat => a.1 ≤ b.1) = [(0, n - 1), (0xD800, 0xDFFF), (n + 1, lastCode)] := by
        rw [complement_single hpos hlast]
        exact mergeSort_swap (Nat.zero_le _) (Nat.lt_of_lt_of_le (by decide) (Nat.le_succ_of_le hhigh))
      rw [characters_eq hsorted, merge_above hhigh, complement_around hpos]
  · obtain rfl : n = lastCode := by
      unfold lastCode at hlast ⊢
      omega
    rw [characters_eq (List.mergeSort_of_pairwise (by decide))]
    rfl

end CodeSet

end Paperwork.Unicode
