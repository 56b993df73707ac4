import Paperwork.Json.Reader
import Paperwork.Proofs.Tree.Parts

/-!
# Scalars are typed

JSON text spells scalars by their values alone, and every number among them is finite: the tree of
any text is typed (`isTyped_of_read`).
-/

namespace Paperwork.Json

/-! ## Scalars -/

theorem fault_ne_ok {α : Type} {bytes : List UInt8} {a : α} : fault bytes ≠ .ok a := by
  cases bytes <;> simp [fault]

theorem leaf_ne_unbounded (p : Partial) : p.leaf ≠ .unbounded := by
  unfold Partial.leaf
  split
  · simp
  · split <;> simp

theorem ne_unbounded_of_readString {bytes rest : List UInt8} {p : Partial} {value : Leaf}
    (h : readString bytes p = .ok (value, rest)) : value ≠ .unbounded := by
  fun_induction readString bytes p with
  | case1 =>
    cases h
    exact leaf_ne_unbounded _
  | _ => simp_all [fault_ne_ok]

theorem ne_unbounded_of_readNumber {bytes rest : List UInt8} {value : Leaf}
    (h : readNumber bytes = .ok (value, rest)) : value ≠ .unbounded := by
  unfold readNumber at h
  rw [bind_eq_ok_iff] at h
  obtain ⟨⟨whole, afterWhole⟩, -, h⟩ := h
  dsimp only at h
  split at h
  · exact (fault_ne_ok h).elim
  · simp only [bind_eq_ok_iff] at h
    obtain ⟨⟨fraction, afterFraction⟩, -, ⟨exponent, afterExponent⟩, -, h⟩ := h
    dsimp only at h
    split at h <;> cases h <;> simp

/-! ## Values -/

section Steps

variable {fuel : Nat} {bytes rest : List UInt8}

/-- Whatever is read as a value, with some fuel, is typed. -/
def ReadsTyped (fuel : Nat) : Prop :=
  ∀ bytes t rest, readValue fuel bytes = .ok (t, rest) → t.IsTyped

theorem isTyped_of_readItems (h : ∀ less < fuel, ReadsTyped less) {items : List Tree}
    (hread : readItems fuel bytes = .ok (items, rest)) : ∀ t ∈ items, t.IsTyped := by
  induction fuel generalizing bytes items rest with
  | zero => exact (fault_ne_ok hread).elim
  | succ fuel ih =>
    rw [readItems, bind_eq_ok_iff] at hread
    obtain ⟨⟨t, afterFirst⟩, ht, hread⟩ := hread
    have hfirst : t.IsTyped := h fuel (Nat.lt_succ_self fuel) bytes t afterFirst ht
    dsimp only at hread
    split at hread
    · rw [bind_eq_ok_iff] at hread
      obtain ⟨⟨others, afterOthers⟩, hothers, hread⟩ := hread
      cases hread
      refine List.forall_mem_cons.mpr ⟨hfirst, ih (fun less hless => ?_) hothers⟩
      exact h less (Nat.lt_succ_of_lt hless)
    · cases hread
      simpa using hfirst
    · exact (fault_ne_ok hread).elim

theorem isTyped_of_readEntries (h : ∀ less < fuel, ReadsTyped less) {entries : List (Tree × Tree)}
    (hread : readEntries fuel bytes = .ok (entries, rest)) : ∀ e ∈ entries, e.2.IsTyped := by
  induction fuel generalizing bytes entries rest with
  | zero => exact (fault_ne_ok hread).elim
  | succ fuel ih =>
    rw [readEntries] at hread
    split at hread
    case h_2 => exact (fault_ne_ok hread).elim
    rw [bind_eq_ok_iff] at hread
    obtain ⟨⟨k, afterKey⟩, -, hread⟩ := hread
    dsimp only at hread
    split at hread
    case h_2 => exact (fault_ne_ok hread).elim
    rw [bind_eq_ok_iff] at hread
    obtain ⟨⟨t, afterFirst⟩, ht, hread⟩ := hread
    have hfirst : t.IsTyped := h fuel (Nat.lt_succ_self fuel) _ t afterFirst ht
    dsimp only at hread
    split at hread
    · rw [bind_eq_ok_iff] at hread
      obtain ⟨⟨others, afterOthers⟩, hothers, hread⟩ := hread
      cases hread
      refine List.forall_mem_cons.mpr ⟨hfirst, ih (fun less hless => ?_) hothers⟩
      exact h less (Nat.lt_succ_of_lt hless)
    · cases hread
      simpa using hfirst
    · exact (fault_ne_ok hread).elim

theorem readsTyped (fuel : Nat) : ReadsTyped fuel := by
  induction fuel using Nat.strongRecOn with
  | ind fuel ih =>
    intro bytes t rest h
    cases fuel with
    | zero => exact (fault_ne_ok h).elim
    | succ fuel =>
      have hless : ∀ less < fuel, ReadsTyped less := fun less hlt => ih less (Nat.lt_succ_of_lt hlt)
      rw [readValue] at h
      split at h
      · exact (fault_ne_ok h).elim
      -- what the first byte that is no blank announces, in the order in which bytes are told apart
      split at h
      · rw [bind_eq_ok_iff] at h
        obtain ⟨⟨value, afterValue⟩, hvalue, h⟩ := h
        cases h
        exact .leaf (ne_unbounded_of_readString hvalue)
      split at h
      · split at h
        · cases h
          exact .sequence (by simp)
        · rw [bind_eq_ok_iff] at h
          obtain ⟨⟨items, afterItems⟩, hitems, h⟩ := h
          cases h
          exact .sequence (isTyped_of_readItems hless hitems)
      split at h
      · split at h
        · cases h
          exact .mapping (by simp)
        · rw [bind_eq_ok_iff] at h
          obtain ⟨⟨entries, afterEntries⟩, hentries, h⟩ := h
          cases h
          exact .mapping (isTyped_of_readEntries hless hentries)
      split at h
      · obtain ⟨afterWord, -, h⟩ := bind_eq_ok_iff.mp h
        cases h
        exact .leaf (by simp)
      split at h
      · obtain ⟨afterWord, -, h⟩ := bind_eq_ok_iff.mp h
        cases h
        exact .leaf (by simp)
      split at h
      · obtain ⟨afterWord, -, h⟩ := bind_eq_ok_iff.mp h
        cases h
        exact .leaf (by simp)
      split at h
      · rw [bind_eq_ok_iff] at h
        obtain ⟨⟨value, afterValue⟩, hvalue, h⟩ := h
        cases h
        exact .leaf (ne_unbounded_of_readNumber hvalue)
      · exact (fault_ne_ok h).elim

end Steps

theorem isTyped_of_read {bytes : ByteArray} {t : Tree} (h : read bytes = .ok t) : t.IsTyped := by
  unfold read at h
  dsimp only at h
  split at h
  · cases h
  · rename_i hvalue
    split at h
    · cases h
      exact readsTyped _ _ _ _ hvalue
    · cases h

end Paperwork.Json
