import Paperwork.Proofs.Pattern.Backtracking

/-!
# What the code of a node does

Code is laid out in front of the step it goes on to, so what it does is told by what is done from
that step on (`Node.Does`). From there the first way of a whole program follows
(`Program.first?_ofNode`).
-/

namespace Paperwork.Pattern

/-- What is saved from a place on; none if there is no way on. -/
abbrev Ways := Spot → Option Saves

namespace Ways

/-- Takes a character of a set. -/
def taking (set : Unicode.CodeSet) (k : Ways) : Ways := fun s =>
  match s.after with
  | [] => none
  | c :: rest => if set.contains c.toNat then k (s.past c rest) else none

/-- Takes characters one after the other. -/
def text : List Char → Ways → Ways
  | [], k => k
  | c :: rest, k => taking (.single c.toNat) (text rest k)

/-- Saves a place. -/
def saving (slot : Nat) (k : Ways) : Ways := fun s => (k s).map ((slot, s.position) :: ·)

/-- Takes characters of a set, as many as possible first or as few as possible first. -/
def many (set : Unicode.CodeSet) (greedy : Bool) (k : Ways) : Nat → Option Char → List Char → Option Saves
  | position, before, [] => k ⟨position, before, []⟩
  | position, before, c :: rest =>
    let more := if set.contains c.toNat then many set greedy k (position + 1) (some c) rest else none
    let done := k ⟨position, before, c :: rest⟩
    if greedy then more.or done else done.or more

/-- Reaches the end. -/
def done : Ways := fun _ => some []

end Ways

/-! ## Steps -/

variable {more next first start : Nat} {greedy : Bool} {set : Unicode.CodeSet}

theorem mem_targets_choice {t : Nat} (h : t ∈ (choice greedy more next).targets) :
    t = more ∨ t = next := by
  cases greedy with
  | true => simpa [choice, Step.targets] using h
  | false => simpa [choice, Step.targets, or_comm] using h

theorem first?_choice (later : Nat → Spot → Option Saves) (s : Spot) :
    (choice greedy more next).first? later s =
      if greedy then (later more s).or (later next s) else (later next s).or (later more s) := by
  have hpair : ∀ a b : Nat, [a, b].findSome? (later · s) = (later a s).or (later b s) := by
    intro a b
    rw [List.findSome?_cons, List.findSome?_singleton]
    cases later a s <;> rfl
  cases greedy <;> exact hpair _ _

/-- A choice whose other way takes a character and comes back to it. -/
theorem first?_many {p : Program} (hp : p.Descends) {back : Nat}
    (hchoice : p.steps[back]? = some (choice greedy more next))
    (htakes : p.steps[more]? = some (.chars set back)) (position : Nat) (before : Option Char)
    (after : List Char) :
    p.first? back ⟨position, before, after⟩ =
      Ways.many set greedy (p.first? next) position before after := by
  induction after generalizing position before with
  | nil =>
    rw [Program.first?_of_step hp hchoice, first?_choice, Program.first?_of_step hp htakes, Ways.many]
    cases greedy with
    | true => rfl
    | false => exact Option.or_none
  | cons c rest ih =>
    rw [Program.first?_of_step hp hchoice, first?_choice, Program.first?_of_step hp htakes, Ways.many,
      ← ih]
    rfl

/-! ## Codes -/

section Adding

variable {code : Array Step} {step : Step}

theorem size_add : (add step code).2.size = code.size + 1 := Array.size_push _

theorem getElem?_add_of_lt {i : Nat} (hi : i < code.size) : (add step code).2[i]? = code[i]? := by
  rw [add, Array.getElem?_push, if_neg (Nat.ne_of_lt hi)]

/-- The step that was added is the only one behind the code. -/
theorem eq_of_getElem?_add {i : Nat} {other : Step} (hi : code.size ≤ i)
    (h : (add step code).2[i]? = some other) : i = code.size ∧ other = step := by
  rw [add, Array.getElem?_push] at h
  split at h
  · exact ⟨‹_›, (Option.some.inj h).symm⟩
  · exact absurd (Array.getElem?_eq_some_iff.mp h).1 (Nat.not_lt_of_le hi)

end Adding

/-- A step of a code takes a character. -/
def TakesAt (code : Array Step) (step : Nat) : Prop := ∃ set next, code[step]? = some (.chars set next)

/-- Code grows by code that goes on to a step, and does something before that. -/
structure Grows (next : Nat) (code : Array Step) (first : Nat) (grown : Array Step) (f : Ways → Ways) :
    Prop where
  keeps : ∀ i < code.size, grown[i]? = code[i]?
  size_le : code.size ≤ grown.size
  first_lt : first < grown.size
  descends : ∀ i step, code.size ≤ i → grown[i]? = some step →
    ∀ t ∈ step.targets, t < i ∨ TakesAt grown t
  first?_eq : ∀ p : Program, p.Descends →
    (∀ i, code.size ≤ i → i < grown.size → p.steps[i]? = grown[i]?) →
    p.first? first = f (p.first? next)

namespace Grows

variable {code grown full : Array Step} {f g : Ways → Ways}

theorem refl (h : next < code.size) : Grows next code next code id where
  keeps := fun _ _ => rfl
  size_le := Nat.le_refl _
  first_lt := h
  descends := fun _ _ hi hstep =>
    absurd (Array.getElem?_eq_some_iff.mp hstep).1 (Nat.not_lt_of_le hi)
  first?_eq := fun _ _ _ => rfl

/-- Code in front of code. -/
theorem trans (h : Grows next code first grown f) (hmore : Grows first grown start full g) :
    Grows next code start full (g ∘ f) where
  keeps := fun i hi => (hmore.keeps i (Nat.lt_of_lt_of_le hi h.size_le)).trans (h.keeps i hi)
  size_le := Nat.le_trans h.size_le hmore.size_le
  first_lt := hmore.first_lt
  descends := fun i step hi hstep t ht => by
    rcases Nat.lt_or_ge i grown.size with hlt | hge
    · rw [hmore.keeps i hlt] at hstep
      refine (h.descends i step hi hstep t ht).imp_right fun ⟨set, after, htakes⟩ => ⟨set, after, ?_⟩
      rw [hmore.keeps t (Array.getElem?_eq_some_iff.mp htakes).1, htakes]
    · exact hmore.descends i step hge hstep t ht
  first?_eq := fun p hp hsteps => by
    rw [hmore.first?_eq p hp fun i hi hlt => hsteps i (Nat.le_trans h.size_le hi) hlt,
      h.first?_eq p hp fun i hi hlt => ?_]
    · rfl
    · rw [hsteps i hi (Nat.lt_of_lt_of_le hlt hmore.size_le), hmore.keeps i hlt]

/-- One more step. -/
theorem add {step : Step} (hlower : ∀ t ∈ step.targets, t < code.size)
    (hf : ∀ p : Program, p.Descends → ∀ s, step.first? p.first? s = f (p.first? next) s) :
    Grows next code (add step code).1 (add step code).2 f where
  keeps := fun _ => getElem?_add_of_lt
  size_le := by
    rw [size_add]
    exact Nat.le_succ _
  first_lt := by
    rw [size_add]
    exact Nat.lt_succ_self _
  descends := fun i other hi hother t ht => by
    obtain ⟨rfl, rfl⟩ := eq_of_getElem?_add hi hother
    exact .inl (hlower t ht)
  first?_eq := fun p hp hsteps => by
    funext s
    have hstep : p.steps[code.size]? = some step := by
      rw [hsteps code.size (Nat.le_refl _) (by rw [size_add]; exact Nat.lt_succ_self _)]
      exact Array.getElem?_push_size
    rw [Pattern.add, Program.first?_of_step hp hstep, hf p hp s]

theorem save (slot : Nat) (h : next < code.size) :
    Grows next code (Pattern.add (.save slot next) code).1 (Pattern.add (.save slot next) code).2
      (Ways.saving slot) :=
  add (fun _ ht => List.mem_singleton.mp ht ▸ h) fun _ _ _ => rfl

/-- A choice, and a step that takes a character and goes back to the choice. -/
theorem many (set : Unicode.CodeSet) (greedy : Bool) (h : next < code.size) :
    Grows next code code.size
      ((code.push (choice greedy (code.size + 1) next)).push (.chars set code.size))
      fun k s => Ways.many set greedy k s.position s.before s.after := by
  generalize hgrown : (code.push (choice greedy (code.size + 1) next)).push (.chars set code.size) = grown
  have hsize : grown.size = code.size + 2 := by rw [← hgrown, Array.size_push, Array.size_push]
  have hchoice : grown[code.size]? = some (choice greedy (code.size + 1) next) := by
    rw [← hgrown, Array.getElem?_push, if_neg (by rw [Array.size_push]; omega)]
    exact Array.getElem?_push_size
  have htakes : grown[code.size + 1]? = some (.chars set code.size) := by
    rw [← hgrown, Array.getElem?_push, if_pos (Array.size_push _).symm]
  refine ⟨fun i hi => ?_, by omega, by omega, fun i step hi hstep t ht => ?_, fun p hp hsteps => ?_⟩
  · rw [← hgrown, Array.getElem?_push, if_neg (by rw [Array.size_push]; omega), Array.getElem?_push,
      if_neg (by omega)]
  · obtain rfl | rfl : i = code.size ∨ i = code.size + 1 := by
      have hlt := (Array.getElem?_eq_some_iff.mp hstep).1
      omega
    · obtain rfl := Option.some.inj (hchoice.symm.trans hstep)
      rcases mem_targets_choice ht with rfl | rfl
      · exact .inr ⟨set, code.size, htakes⟩
      · exact .inl h
    · obtain rfl := Option.some.inj (htakes.symm.trans hstep)
      exact absurd ht List.not_mem_nil
  · funext ⟨position, before, after⟩
    exact first?_many hp ((hsteps code.size (Nat.le_refl _) (by omega)).trans hchoice)
      ((hsteps (code.size + 1) (Nat.le_succ _) (by omega)).trans htakes) position before after

end Grows

/-- What the code of a node does before what it goes on to. -/
def Node.Does (n : Node) (f : Ways → Ways) : Prop :=
  ∀ (next : Nat) (code : Array Step), next < code.size →
    Grows next code (n.layout next code).1 (n.layout next code).2 f

namespace Node

variable {n : Node} {parts : List Node} {f g : Ways → Ways}

theorem textLayout_cons (c : Char) (rest : List Char) (next : Nat) (code : Array Step) :
    textLayout (c :: rest) next code =
      add (.chars (.single c.toNat) (textLayout rest next code).1) (textLayout rest next code).2 := by
  unfold textLayout
  rw [List.reverse_cons, List.foldl_append]
  rfl

theorem does_text (cs : List Char) : (Node.text cs).Does (Ways.text cs) := by
  intro next code hnext
  rw [layout]
  induction cs with
  | nil => exact .refl hnext
  | cons c rest ih =>
    rw [textLayout_cons]
    exact ih.trans (.add (fun t ht => absurd ht List.not_mem_nil) fun _ _ _ => rfl)

theorem does_capture (index : Nat) (name : Option String) (h : n.Does f) :
    (Node.capture index name n).Does (Ways.saving (2 * index) ∘ f ∘ Ways.saving (2 * index + 1)) := by
  intro next code hnext
  have hstop := Grows.save (2 * index + 1) hnext
  have hsub := h _ _ hstop.first_lt
  exact (hstop.trans hsub).trans (.save (2 * index) hsub.first_lt)

theorem does_concat_nil : (Node.concat []).Does id := by
  intro next code hnext
  exact .refl hnext

theorem does_concat_cons (h : n.Does f) (hparts : (Node.concat parts).Does g) :
    (Node.concat (n :: parts)).Does (f ∘ g) := by
  intro next code hnext
  have hrest := hparts next code hnext
  exact hrest.trans (h _ _ hrest.first_lt)

/-- The code of a class that is taken any number of times: a choice, and a step back to it. -/
theorem layout_many {set : Unicode.CodeSet} (hset : set.isEmpty = false) (greedy : Bool) (next : Nat)
    (code : Array Step) :
    (Node.repeated (.chars set) 0 none greedy).layout next code =
      (code.size, (code.push (choice greedy (code.size + 1) next)).push (.chars set code.size)) := by
  have hnever : (Node.chars set).maybeEmpty = false := by
    simp [Node.maybeEmpty, Node.leastLength?, hset]
  simp only [layout, hnever, BEq.rfl, if_true, Bool.false_eq_true, if_false, star, add,
    Array.size_push]
  refine Prod.ext rfl (Array.ext_getElem? fun i => ?_)
  simp only [Array.getElem?_setIfInBounds, Array.getElem?_push, Array.size_push]
  grind

theorem does_many {set : Unicode.CodeSet} (hset : set.isEmpty = false) (greedy : Bool) :
    (Node.repeated (.chars set) 0 none greedy).Does
      fun k s => Ways.many set greedy k s.position s.before s.after := by
  intro next code hnext
  rw [layout_many hset]
  exact .many set greedy hnext

end Node

/-! ## Whole programs -/

namespace Program

variable {p : Program} {n : Node} {f : Ways → Ways}

theorem rank_le_succ (p : Program) (step : Nat) : p.rank step ≤ step + 1 := by
  unfold rank
  split
  · exact Nat.zero_le _
  · exact Nat.zero_le _
  · exact Nat.le_refl _

/-- Code whose steps lead to earlier steps, or to ones that take a character, descends. -/
theorem descends_of_earlier (h : ∀ i step, p.steps[i]? = some step →
    ∀ t ∈ step.targets, t < i ∨ TakesAt p.steps t) : p.Descends := by
  intro i step hstep t ht
  have hrank : p.rank i = i + 1 := by
    cases step with
    | accept => exact absurd ht List.not_mem_nil
    | chars set next => exact absurd ht List.not_mem_nil
    | _ => simp only [rank, hstep]
  rw [hrank]
  rcases h i step hstep t ht with hlt | ⟨set, next, htakes⟩
  · exact Nat.lt_succ_of_le (Nat.le_trans (p.rank_le_succ t) hlt)
  · simp only [rank, htakes]
    exact Nat.succ_pos i

theorem grows_ofNode (h : n.Does f) :
    Grows 0 #[.accept] (ofNode n).start (ofNode n).steps (Ways.saving 0 ∘ f ∘ Ways.saving 1) :=
  Node.does_capture 0 none h 0 #[.accept] (Nat.succ_pos 0)

theorem descends_ofNode (h : n.Does f) : (ofNode n).Descends := by
  have hgrows := grows_ofNode h
  refine descends_of_earlier fun i step hstep t ht => ?_
  rcases Nat.eq_zero_or_pos i with rfl | hi
  · rw [hgrows.keeps 0 (Nat.succ_pos 0)] at hstep
    obtain rfl := Option.some.inj hstep
    exact absurd ht List.not_mem_nil
  · exact hgrows.descends i step hi hstep t ht

/-- The whole match is saved around what the node does. -/
theorem first?_ofNode (h : n.Does f) :
    (ofNode n).first? (ofNode n).start = Ways.saving 0 (f (Ways.saving 1 Ways.done)) := by
  have hgrows := grows_ofNode h
  have hdescends := descends_ofNode h
  have hend : (ofNode n).first? 0 = Ways.done := by
    funext s
    exact first?_of_step hdescends (hgrows.keeps 0 (Nat.succ_pos 0))
  rw [hgrows.first?_eq _ hdescends fun _ _ _ => rfl, hend]
  rfl

end Program

end Paperwork.Pattern
