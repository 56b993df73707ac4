import Paperwork.Proofs.Archive.Bytes
import Paperwork.Word.Document

/-!
# Short patterns are not refused

States of a class are shared where a memory has them, so their exact number depends on what the
memory still has. They are never more than the bytes of the encodings of the class, so a class of
few encodings is small (`within_classForward`, `within_classBackward`). What counts in the pattern of
a placeholder are its delimiters, which may be long (`Delimiters.isTooLarge_pattern`).
-/

namespace Paperwork.Pattern

/-- A tally with at most so many more states, which list at most so many more bytes. -/
structure Tally.Within (t grown : Tally) (states listed : Nat) : Prop where
  states : grown.states ≤ t.states + states
  listed : grown.listed ≤ t.listed + listed

namespace Tally.Within

variable {t u v : Tally} {n m k l : Nat}

theorem refl (t : Tally) : t.Within t 0 0 := ⟨Nat.le_refl _, Nat.le_refl _⟩

theorem trans (h : t.Within u n m) (hmore : u.Within v k l) : t.Within v (n + k) (m + l) := by
  obtain ⟨hstates, hlisted⟩ := h
  obtain ⟨hmoreStates, hmoreListed⟩ := hmore
  exact ⟨by omega, by omega⟩

theorem mono (h : t.Within u n m) (hn : n ≤ k) (hm : m ≤ l) : t.Within u k l := by
  obtain ⟨hstates, hlisted⟩ := h
  exact ⟨by omega, by omega⟩

theorem add (t : Tally) (ranges : Nat) : t.Within (t.add ranges) 1 (8 * ranges) :=
  ⟨Nat.le_refl _, Nat.le_refl _⟩

theorem list (t : Tally) (ways : Nat) : t.Within (t.list ways) 0 (4 * ways) :=
  ⟨Nat.le_refl _, Nat.le_refl _⟩

end Tally.Within

open Tally (Within)

/-! ## Classes read backward -/

/-- An encoding takes a state for each of its bytes at most. -/
theorem within_backwardStates (ranges : ByteRanges) (goal : Nat) (acc : Memory × Tally) :
    acc.2.Within (backwardStates ranges goal acc).2 ranges.length 0 := by
  induction ranges generalizing goal acc with
  | nil => exact .refl _
  | cons r rest ih =>
    obtain ⟨a, b⟩ := r
    obtain ⟨memory, t⟩ := acc
    rw [backwardStates]
    split
    · exact (ih _ _).mono (Nat.le_succ _) (Nat.le_refl _)
    · have hlater := ih t.states (memory.insert (slotOf 1000 [goal, a, b]) ([goal, a, b], t.states), t.add 0)
      refine ((Tally.Within.add t 0).trans hlater).mono ?_ (Nat.le_refl _)
      exact Nat.le_of_eq (Nat.add_comm _ _)

/-- A fold over encodings that adds a state for each byte, and one way on for each encoding. -/
theorem within_foldl {step : Memory × Tally → ByteRanges → Memory × Tally} {n : Nat}
    (hstep : ∀ (acc : Memory × Tally) (ranges : ByteRanges), ranges.length ≤ n →
      acc.2.Within (step acc ranges).2 n 4)
    (list : List ByteRanges) (hlength : ∀ ranges ∈ list, ranges.length ≤ n) (acc : Memory × Tally) :
    acc.2.Within (list.foldl step acc).2 (n * list.length) (4 * list.length) := by
  induction list generalizing acc with
  | nil => exact .refl _
  | cons ranges rest ih =>
    rw [List.forall_mem_cons] at hlength
    rw [List.foldl_cons, List.length_cons]
    have hmore := (hstep acc ranges hlength.1).trans (ih hlength.2 (step acc ranges))
    refine hmore.mono ?_ (by omega)
    rw [Nat.mul_succ]
    exact Nat.le_of_eq (Nat.add_comm _ _)

theorem within_classBackward {set : Unicode.CodeSet} {n : Nat}
    (hlength : ∀ ranges ∈ encodings set, ranges.length ≤ n) (t : Tally) :
    t.Within (classBackward set t) (2 + n * (encodings set).length) (4 * (encodings set).length) := by
  have hstart : t.Within ((t.add 0).add 0) 2 0 := (Tally.Within.add t 0).trans (.add _ 0)
  refine (hstart.trans (within_foldl ?_ (encodings set) hlength (∅, (t.add 0).add 0))).mono
    (Nat.le_refl _) (by omega)
  intro acc ranges hranges
  have hstates := (within_backwardStates ranges (t.states + 1) acc).mono hranges (Nat.le_refl _)
  exact hstates.trans (.list _ 1)

/-! ## Classes read forward -/

namespace ClassStates

variable {s : ClassStates} {n : Nat}

/-- No open state has more than a number of byte ranges. -/
def AreShort (n : Nat) (opened : List OpenState) : Prop := ∀ o ∈ opened, o.done.length ≤ 3 * n

theorem areShort_cons {o : OpenState} {rest : List OpenState} :
    AreShort n (o :: rest) ↔ o.done.length ≤ 3 * n ∧ AreShort n rest :=
  List.forall_mem_cons

theorem AreShort.mono {m : Nat} {opened : List OpenState} (h : AreShort n opened) (hnm : n ≤ m) :
    AreShort m opened := by
  intro o ho
  have hlength := h o ho
  omega

theorem length_close {o : OpenState} (goal : Nat) (h : o.done.length ≤ 3 * n) :
    (o.close goal).done.length ≤ 3 * (n + 1) := by
  rw [OpenState.close]
  split
  · rw [List.length_append]
    show o.done.length + 3 ≤ _
    omega
  · omega

theorem opened_done (s : ClassStates) (key : List Nat) : (s.done key).2.opened = s.opened := by
  simp only [done]
  split <;> rfl

theorem within_done {key : List Nat} (hkey : key.length ≤ 3 * n) :
    s.tally.Within (s.done key).2.tally 1 (8 * n) := by
  simp only [done]
  split
  · exact (Tally.Within.refl _).mono (Nat.zero_le _) (Nat.zero_le _)
  · refine (Tally.Within.add _ _).mono (Nat.le_refl _) ?_
    omega

/-- Each state that is closed is a state at most, and one that stays open gets a range at most. -/
theorem within_closeBehind (depth fuel goal : Nat) (h : AreShort n s.opened) :
    s.tally.Within (s.closeBehind depth fuel goal).tally fuel (8 * (n + 1) * fuel) ∧
      AreShort (n + 1) (s.closeBehind depth fuel goal).opened := by
  induction fuel generalizing s goal with
  | zero => exact ⟨.refl _, h.mono (Nat.le_succ n)⟩
  | succ fuel ih =>
    rw [closeBehind]
    split
    · exact ⟨(Tally.Within.refl _).mono (Nat.zero_le _) (Nat.zero_le _), h.mono (Nat.le_succ n)⟩
    · rename_i o rest hopened
      rw [hopened] at h
      obtain ⟨ho, hrest⟩ := areShort_cons.mp h
      split
      · refine ⟨(Tally.Within.refl _).mono (Nat.zero_le _) (Nat.zero_le _), ?_⟩
        exact areShort_cons.mpr ⟨length_close goal ho, hrest.mono (Nat.le_succ n)⟩
      · have hdone := within_done (s := { s with opened := rest }) (length_close goal ho)
        have hopen := opened_done { s with opened := rest } (o.close goal).done
        obtain ⟨hlater, hshort⟩ := ih (s := ({ s with opened := rest }.done (o.close goal).done).2)
          ({ s with opened := rest }.done (o.close goal).done).1 (hopen ▸ hrest)
        refine ⟨(hdone.trans hlater).mono (by omega) ?_, hshort⟩
        rw [Nat.mul_succ (8 * (n + 1)) fuel]
        exact Nat.le_of_eq (Nat.add_comm _ _)

theorem areShort_deeper (ranges : ByteRanges) {opened : List OpenState} (h : AreShort n opened) :
    AreShort n (ranges.foldl (fun opened r => ⟨[], some r⟩ :: opened) opened) := by
  induction ranges generalizing opened with
  | nil => exact h
  | cons r rest ih =>
    rw [List.foldl_cons]
    exact ih (areShort_cons.mpr ⟨Nat.zero_le _, h⟩)

/-- An encoding closes five states at most, for no encoding has more than four bytes. -/
theorem within_addEncoding (goal : Nat) (ranges : ByteRanges) (h : AreShort n s.opened) :
    s.tally.Within (s.addEncoding goal ranges).tally 5 (8 * (n + 1) * 5) ∧
      AreShort (n + 1) (s.addEncoding goal ranges).opened := by
  obtain ⟨htally, hopened⟩ :=
    within_closeBehind (sharedDepth ranges s.opened.reverse + 1) 5 goal h
  simp only [addEncoding]
  split
  · rename_i o rest r more hrest _
    refine ⟨htally, ?_⟩
    rw [hrest] at hopened
    obtain ⟨ho, hothers⟩ := areShort_cons.mp hopened
    have hdeeper := areShort_deeper (n := n + 1) more (fun _ h => absurd h List.not_mem_nil)
    intro x hx
    rcases List.mem_append.mp hx with hx | hx
    · exact hdeeper x hx
    · rcases List.mem_cons.mp hx with rfl | hx
      · exact ho
      · exact hothers x hx
  · exact ⟨htally, hopened⟩

/-- The more encodings there were, the more ranges an open state may have. -/
theorem within_foldl_addEncoding (goal : Nat) (list : List ByteRanges) (h : AreShort n s.opened) :
    s.tally.Within (list.foldl (addEncoding goal) s).tally (5 * list.length)
        (40 * ((n + list.length) * list.length)) ∧
      AreShort (n + list.length) (list.foldl (addEncoding goal) s).opened := by
  induction list generalizing s n with
  | nil => exact ⟨.refl _, h⟩
  | cons ranges rest ih =>
    obtain ⟨hfirst, hshort⟩ := within_addEncoding goal ranges h
    obtain ⟨hrest, hlast⟩ := ih hshort
    have hlength : n + (rest.length + 1) = n + 1 + rest.length := by omega
    rw [List.foldl_cons, List.length_cons, hlength]
    refine ⟨(hfirst.trans hrest).mono (by omega) ?_, hlast⟩
    rw [Nat.mul_succ (n + 1 + rest.length)]
    omega

end ClassStates

theorem within_classForward (set : Unicode.CodeSet) (t : Tally) :
    t.Within (classForward set t) (6 + 5 * (encodings set).length)
      (40 * ((encodings set).length * (encodings set).length) + 40 * ((encodings set).length + 1)) := by
  have hstart : ClassStates.AreShort 0 [⟨[], none⟩] :=
    ClassStates.areShort_cons.mpr ⟨Nat.le_refl _, fun _ h => absurd h List.not_mem_nil⟩
  obtain ⟨hfold, hshort⟩ := ClassStates.within_foldl_addEncoding (s := ⟨[⟨[], none⟩], ∅, t.add 0⟩)
    t.states (encodings set) hstart
  obtain ⟨hlast, -⟩ := ClassStates.within_closeBehind 0 5 t.states hshort
  rw [Nat.zero_add] at hfold hlast
  exact (((Tally.Within.add t 0).trans hfold).trans hlast).mono (by omega) (by omega)

/-! ## Few encodings -/

/-- A class of more than ASCII characters that has few encodings. -/
structure HasFewEncodings (set : Unicode.CodeSet) : Prop where
  some : set.isEmpty = false
  wide : set.ranges.all (·.2 < 128) = false
  few : (encodings set).length ≤ 12
  short : ∀ ranges ∈ encodings set, ranges.length ≤ 4

variable {set : Unicode.CodeSet}

theorem within_classTally (h : HasFewEncodings set) (backward : Bool) (t : Tally) :
    t.Within (classTally backward set t) 66 6280 := by
  have hfew := h.few
  rw [classTally, h.wide, if_neg Bool.false_ne_true]
  cases backward with
  | false =>
    have hforward := within_classForward set t
    have hsquare := Nat.mul_le_mul hfew hfew
    rw [if_neg Bool.false_ne_true]
    exact hforward.mono (by omega) (by omega)
  | true =>
    have hbackward := within_classBackward h.short t
    rw [if_pos rfl]
    exact hbackward.mono (by omega) (by omega)

/-- What may be repeated without end is a class and a fork. -/
theorem part_inside (h : HasFewEncodings set) (backward greedy : Bool) (t : Tally) :
    (Node.repeated (.chars set) 0 none greedy).part backward t =
      ⟨(classTally backward set (t.add 0)).list 1, true⟩ := by
  have hnever : (Node.chars set).maybeEmpty = false := by
    simp [Node.maybeEmpty, Node.leastLength?, h.some]
  simp only [Node.part, hnever, Part.repeated, Part.goOn, Bool.false_eq_true, if_false]

theorem within_inside (h : HasFewEncodings set) (backward greedy : Bool) (t : Tally) :
    t.Within ((Node.repeated (.chars set) 0 none greedy).part backward t).goOn 67 6288 := by
  rw [part_inside h, Part.goOn, if_pos rfl]
  have hclass := (Tally.Within.add t 0).trans (within_classTally h backward (t.add 0))
  exact ((hclass.trans (.list _ 1)).trans (.list _ 1)).mono (by omega) (by omega)

theorem length_textBytes (cs : List Char) : (textBytes cs).length = (String.ofList cs).utf8ByteSize := by
  rw [textBytes, Archive.toList_eq]
  rfl

theorem within_text (backward : Bool) (t : Tally) (cs : List Char) :
    t.Within ((Node.text cs).part backward t).goOn (textBytes cs).length 0 := by
  rw [Node.part]
  exact ⟨Nat.le_refl _, Nat.le_refl _⟩

/-! ## All characters -/

/-- The class of any character. -/
def anyCharacter : Unicode.CodeSet := Unicode.CodeSet.all.characters

theorem ranges_anyCharacter : anyCharacter.ranges = [(0, 0xD7FF), (0xE000, 0x10FFFF)] := by
  decide +kernel

theorem hasFewEncodings_anyCharacter : HasFewEncodings anyCharacter where
  some := by simp [Unicode.CodeSet.isEmpty, ranges_anyCharacter]
  wide := by simp [ranges_anyCharacter]
  few := by decide +kernel
  short := by decide +kernel

theorem ofSet_all : Node.ofSet .all = .chars anyCharacter := by
  have hranges : Unicode.CodeSet.all.characters.ranges = [(0, 0xD7FF), (0xE000, 0x10FFFF)] :=
    ranges_anyCharacter
  unfold Node.ofSet
  simp only [hranges]
  rfl

/-- Anything between two texts. -/
def between (a b : List Char) : Node :=
  .concat [.text a, .capture 1 none (.repeated (.chars anyCharacter) 0 none false), .text b]

theorem within_group (backward : Bool) (t : Tally) :
    t.Within ((Node.capture 1 none (.repeated (.chars anyCharacter) 0 none false)).part backward t).goOn
      69 6288 := by
  rw [Node.part]
  cases backward with
  | false =>
    have hinside := (Tally.Within.add t 0).trans
      (within_inside hasFewEncodings_anyCharacter false false (t.add 0))
    exact (hinside.trans (.add _ 0)).mono (by omega) (by omega)
  | true => exact (within_inside hasFewEncodings_anyCharacter true false t).mono (by omega) (by omega)

theorem within_between (backward : Bool) (a b : List Char) (t : Tally) :
    t.Within ((between a b).part backward t).goOn ((textBytes a).length + (textBytes b).length + 69)
      6288 := by
  rw [between, Node.part]
  cases backward with
  | false =>
    exact (((within_text false t a).trans (within_group false _)).trans (within_text false _ b)).mono
      (by omega) (by omega)
  | true =>
    exact (((within_text true t b).trans (within_group true _)).trans (within_text true _ a)).mono
      (by omega) (by omega)

/-- A node that does not start or end where the text does is small if its parts are. -/
theorem isTooLarge_of_within {n : Node} (states listed : Nat) (hopen : n.opensAt .textStart = false)
    (hclose : n.closesAt .textEnd = false)
    (hpart : ∀ backward (t : Tally), t.Within (n.part backward t).goOn states listed)
    (h : 32 * (states + 6) + listed + 16 ≤ maxSize) : n.isTooLarge = false := by
  have hsmall : ∀ backward, (n.tally backward).isTooLarge = false := by
    intro backward
    have hwithin : Tally.Within ⟨3, 16⟩ (n.tally backward) (states + 3) listed := by
      have hbound : (if backward then n.closesAt .textEnd else n.opensAt .textStart) = false := by
        cases backward <;> assumption
      rw [Node.tally, hbound]
      cases backward with
      | false =>
        have hwhole := (Tally.Within.add ⟨3, 16⟩ 0).trans (hpart false _)
        exact ((hwhole.trans (.add _ 0)).trans (.add _ 0)).mono (by omega) (by omega)
      | true => exact ((hpart true _).trans (.add _ 0)).mono (by omega) (by omega)
    obtain ⟨hstates, hlisted⟩ := hwithin
    refine decide_eq_false ?_
    simp only [Tally.size] at hstates hlisted ⊢
    omega
  rw [Node.isTooLarge, hsmall, hsmall]
  simp

/-- Short texts are far from too large. -/
theorem isTooLarge_between {a b : List Char}
    (h : (textBytes a).length + (textBytes b).length ≤ 300000) : (between a b).isTooLarge = false := by
  refine isTooLarge_of_within _ _ rfl rfl (fun backward t => within_between backward a b t) ?_
  unfold maxSize
  omega

end Paperwork.Pattern

namespace Paperwork.Delimiters

open Pattern

variable {d : Delimiters}

/-- The pattern of a placeholder is anything between two texts. -/
theorem pattern_eq (hstart : d.start ≠ "") (hstop : d.stop ≠ "") :
    d.pattern = between d.start.toList d.stop.toList := by
  have hstartEmpty : d.start.isEmpty = false := by simpa using hstart
  have hstopEmpty : d.stop.isEmpty = false := by simpa using hstop
  simp only [pattern, hstartEmpty, hstopEmpty, ofSet_all]
  rfl

/-- Delimiters of some hundred kilobytes are still short enough. -/
theorem isTooLarge_pattern (hstart : d.start ≠ "") (hstop : d.stop ≠ "")
    (h : d.start.utf8ByteSize + d.stop.utf8ByteSize ≤ 300000) : d.pattern.isTooLarge = false := by
  rw [pattern_eq hstart hstop]
  refine isTooLarge_between ?_
  rwa [length_textBytes, length_textBytes, String.ofList_toList, String.ofList_toList]

end Paperwork.Delimiters
