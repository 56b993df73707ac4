import Paperwork.Proofs.Pattern.Layout
import Paperwork.Proofs.Pattern.Size
import Paperwork.Proofs.Text.Pieces
import Paperwork.Proofs.Unicode.Characters

/-!
# Texts between two texts

A class that is taken as few times as possible ends where the text behind it is found first, and so
does one that the text behind it cannot start with, taken as many times as possible. Both patterns
of documents are of this kind: placeholders (`first?_between`) and tags (`first?_tag`).
-/

namespace Paperwork.Pattern

open Unicode CodeSet

/-- A place some characters further on. -/
def Spot.skip (s : Spot) (n : Nat) : Spot :=
  ⟨s.position + n, beforeDrop s.before s.after n, s.after.drop n⟩

theorem Spot.skip_past (position : Nat) (before : Option Char) (c : Char) (rest : List Char) (n : Nat) :
    ((⟨position, before, c :: rest⟩ : Spot).past c rest).skip n =
      (⟨position, before, c :: rest⟩ : Spot).skip (n + 1) := by
  unfold skip past
  dsimp only
  congr 1
  · omega
  · cases n <;> rfl

namespace Ways

variable {k : Ways} {sep cs : List Char} {saves : Nat → Saves} {set : CodeSet}

theorem text_eq (cs : List Char) (k : Ways) (s : Spot) :
    text cs k s = if cs.isPrefixOf s.after then k (s.skip cs.length) else none := by
  induction cs generalizing s with
  | nil => rfl
  | cons c rest ih =>
    obtain ⟨position, before, after⟩ := s
    cases after with
    | nil => rfl
    | cons d more =>
      show (if (CodeSet.single c.toNat).contains d.toNat then _ else _) = _
      rw [ih, Spot.skip_past]
      by_cases hc : c = d
      · rw [if_pos (contains_single.mpr hc), hc]
        simp [List.isPrefixOf, Spot.past]
      · rw [if_neg fun h => hc (contains_single.mp h)]
        simp [List.isPrefixOf, hc]

/-- Saves what belongs to a place if a text stands there. -/
def here (sep : List Char) (saves : Nat → Saves) : Ways := fun s =>
  if sep.isPrefixOf s.after then some (saves s.position) else none

theorem text_saving_done (sep : List Char) :
    text sep (saving 1 done) = here sep fun position => [(1, position + sep.length)] := by
  funext s
  rw [text_eq]
  rfl

theorem saving_here (slot : Nat) :
    saving slot (here sep saves) = here sep fun position => (slot, position) :: saves position := by
  funext s
  unfold saving here
  split <;> rfl

/-- What is found behind the fewest characters stands where a text is found first. -/
theorem many_lazy (hset : ∀ c : Char, set.contains c.toNat) (position : Nat) (before : Option Char)
    (after : List Char) :
    many set false (here sep saves) position before after =
      (splitFirst sep after).map fun cut => saves (position + cut.1.length) := by
  induction after generalizing position before with
  | nil =>
    cases sep <;> rfl
  | cons c rest ih =>
    rw [many, if_pos (hset c), ih, if_neg Bool.false_ne_true, here, splitFirst]
    split
    · rfl
    · rw [Option.none_or, Option.map_map]
      congr 1
      funext cut
      simp only [Function.comp_apply, List.length_cons]
      congr 1
      omega

/-- What is found behind the most characters, if it cannot start with one of them. -/
theorem many_greedy {d : Char} (hset : ∀ c : Char, set.contains c.toNat ↔ c ≠ d) (position : Nat)
    (before : Option Char) (after : List Char) :
    many set true (here [d] saves) position before after =
      (splitFirst [d] after).map fun cut => saves (position + cut.1.length) := by
  induction after generalizing position before with
  | nil => rfl
  | cons c rest ih =>
    rw [many, ih, if_pos rfl, here, splitFirst]
    by_cases hc : c = d
    · rw [if_neg fun h => (hset c).mp h hc, hc]
      simp [List.isPrefixOf]
    · rw [if_pos ((hset c).mpr hc)]
      have hstart : ¬ [d].isPrefixOf (c :: rest) = true := by simp [List.isPrefixOf, Ne.symm hc]
      rw [if_neg hstart, if_neg hstart, Option.or_none, Option.map_map]
      congr 1
      funext cut
      simp only [Function.comp_apply, List.length_cons]
      congr 1
      omega

end Ways

/-! ## Placeholders -/

theorem contains_anyCharacter (c : Char) : anyCharacter.contains c.toNat := by
  have hcode := isCode c
  simp only [CodeSet.contains, ranges_anyCharacter, CodeSet.inRanges, Bool.or_false,
    Bool.and_eq_true, Bool.or_eq_true, decide_eq_true_eq]
  omega

variable {a b : List Char}

theorem does_between (a b : List Char) :
    (between a b).Does fun k => Ways.text a (Ways.saving 2
      fun s => Ways.many anyCharacter false (Ways.saving 3 (Ways.text b k)) s.position s.before s.after) :=
  Node.does_concat_cons (Node.does_text a) (Node.does_concat_cons
    (Node.does_capture 1 none (Node.does_many hasFewEncodings_anyCharacter.some false))
    (Node.does_concat_cons (Node.does_text b) Node.does_concat_nil))

/-- What a match between two texts saves. -/
def savesBetween (a b : List Char) (position length : Nat) : Saves :=
  let inside := position + a.length
  [(0, position), (2, inside), (3, inside + length), (1, inside + length + b.length)]

theorem first?_between (position : Nat) (before : Option Char) (after : List Char) :
    (Program.ofNode (between a b)).first? (Program.ofNode (between a b)).start
        ⟨position, before, after⟩ =
      if a.isPrefixOf after then
        (splitFirst b (after.drop a.length)).map fun cut => savesBetween a b position cut.1.length
      else none := by
  rw [Program.first?_ofNode (does_between a b), Ways.text_saving_done, Ways.saving_here]
  simp only [Ways.saving, Ways.text_eq, Ways.many_lazy contains_anyCharacter]
  split
  · simp only [Option.map_map]
    rfl
  · rfl

/-! ## Tags -/

/-- The class of the characters that may stand inside of a tag. -/
def inTag : CodeSet :=
  (CodeSet.complement (.unions [.single '>'.toNat])).characters

theorem ranges_inTag : inTag.ranges = [(0, 61), (63, 0xD7FF), (0xE000, 0x10FFFF)] := by
  have hset : CodeSet.complement (.unions [.single '>'.toNat]) = ⟨[(0, 61), (63, 0x10FFFF)]⟩ := by
    decide +kernel
  rw [inTag, hset, characters_eq (List.mergeSort_of_pairwise (by decide))]
  rfl

theorem hasFewEncodings_inTag : HasFewEncodings inTag := by
  have hset : inTag = ⟨[(0, 61), (63, 0xD7FF), (0xE000, 0x10FFFF)]⟩ := by
    rw [← ranges_inTag]
  rw [hset]
  exact ⟨rfl, by decide, by decide, by decide⟩

theorem contains_inTag (c : Char) : inTag.contains c.toNat ↔ c ≠ '>' := by
  have hcode := isCode c
  have hangle : c ≠ '>' ↔ c.toNat ≠ 62 := not_congr (Char.toNat_inj (d := '>')).symm
  simp only [hangle, CodeSet.contains, ranges_inTag, CodeSet.inRanges, Bool.or_false,
    Bool.and_eq_true, Bool.or_eq_true, decide_eq_true_eq]
  omega

/-- A tag as a pattern: no closing angle between its angles. -/
def tag : Node := .concat [.text ['<'], .repeated (.chars inTag) 0 none true, .text ['>']]

theorem isTooLarge_tag : tag.isTooLarge = false := by
  refine isTooLarge_of_within 69 6288 rfl rfl (fun backward t => ?_) (by decide)
  have hinside := within_inside hasFewEncodings_inTag backward true
  have hopen := fun t => within_text backward t ['<']
  have hclose := fun t => within_text backward t ['>']
  simp only [length_textBytes] at hopen hclose
  rw [tag, Node.part]
  cases backward with
  | false =>
    exact (((hopen t).trans (hinside _)).trans (hclose _)).mono (by decide) (by decide)
  | true =>
    exact (((hclose t).trans (hinside _)).trans (hopen _)).mono (by decide) (by decide)

theorem does_tag :
    tag.Does fun k => Ways.text ['<']
      fun s => Ways.many inTag true (Ways.text ['>'] k) s.position s.before s.after :=
  Node.does_concat_cons (Node.does_text ['<']) (Node.does_concat_cons
    (Node.does_many hasFewEncodings_inTag.some true)
    (Node.does_concat_cons (Node.does_text ['>']) Node.does_concat_nil))

/-- What the match of a tag saves. -/
def savesTag (position length : Nat) : Saves := [(0, position), (1, position + 1 + length + 1)]

theorem first?_tag (position : Nat) (before : Option Char) (after : List Char) :
    (Program.ofNode tag).first? (Program.ofNode tag).start ⟨position, before, after⟩ =
      if ['<'].isPrefixOf after then
        (splitFirst ['>'] (after.drop 1)).map fun cut => savesTag position cut.1.length
      else none := by
  rw [Program.first?_ofNode does_tag, Ways.text_saving_done]
  simp only [Ways.saving, Ways.text_eq, Ways.many_greedy contains_inTag]
  split
  · simp only [Option.map_map]
    rfl
  · rfl

end Paperwork.Pattern
