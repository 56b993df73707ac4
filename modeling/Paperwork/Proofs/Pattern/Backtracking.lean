import Paperwork.Pattern.Search

/-!
# Ways one after the other

The ways to match from a step on may also be tried one after the other, the one with the highest
priority first, until one reaches the end of the program (`Program.first?`). This comes to an end if
each step that takes no character leads to a step of lower rank (`Program.Descends`). The first way
from a step on is then told by those from the steps after it (`Program.first?_eq`).
-/

namespace Paperwork.Pattern

/-- What a way saves, in order: slots and the places that are written to them. -/
abbrev Saves := List (Nat × Nat)

/-- Writes places to their slots. -/
def Saves.store (saves : Saves) (slots : Slots) : Slots :=
  saves.foldl (fun slots save => slots.setIfInBounds save.1 (some save.2)) slots

/-- The place behind the next character. -/
def Spot.past (s : Spot) (c : Char) (rest : List Char) : Spot := ⟨s.position + 1, some c, rest⟩

namespace Step

variable {later others : Nat → Spot → Option Saves} {s : Spot}

/-- The first way from a step on, given those from the steps after it. -/
def first? (later : Nat → Spot → Option Saves) (s : Spot) : Step → Option Saves
  | accept => some []
  | chars set next => match s.after with
    | [] => none
    | c :: rest => if set.contains c.toNat then later next (s.past c rest) else none
  | place p next => if p.holds s then later next s else none
  | save slot next => (later next s).map ((slot, s.position) :: ·)
  | split targets => targets.findSome? (later · s)

/-- The steps that a step goes on to without a character. -/
def targets : Step → List Nat
  | place _ next => [next]
  | save _ next => [next]
  | split targets => targets
  | _ => []

theorem first?_congr {step : Step} (hempty : ∀ t ∈ step.targets, later t s = others t s)
    (htake : ∀ t c rest, s.after = c :: rest → later t (s.past c rest) = others t (s.past c rest)) :
    step.first? later s = step.first? others s := by
  cases step with
  | accept => rfl
  | chars set next =>
    simp only [first?]
    split
    · rfl
    · rename_i c rest hafter
      rw [htake next c rest hafter]
  | place p next => simp only [first?, hempty next (List.mem_singleton_self _)]
  | save slot next => simp only [first?, hempty next (List.mem_singleton_self _)]
  | split targets =>
    simp only [Step.targets] at hempty
    simp only [first?]
    induction targets with
    | nil => rfl
    | cons t rest ih =>
      rw [List.forall_mem_cons] at hempty
      rw [List.findSome?_cons, List.findSome?_cons, hempty.1, ih hempty.2]

end Step

namespace Program

variable {p : Program} {step : Nat} {s : Spot}

/-- The first way from a step on, as far as a number of steps leads. -/
def firstWithin? (p : Program) : Nat → Nat → Spot → Option Saves
  | 0, _, _ => none
  | fuel + 1, step, s => p.steps[step]?.bind (Step.first? (p.firstWithin? fuel) s)

/-- A step that takes a character comes before all others, which stand in the order of the program. -/
def rank (p : Program) (step : Nat) : Nat :=
  match p.steps[step]? with
  | none => 0
  | some (.chars _ _) => 0
  | some _ => step + 1

/-- Steps lead to a lower rank unless they take a character. -/
def Descends (p : Program) : Prop :=
  ∀ (step : Nat) (code : Step), p.steps[step]? = some code → ∀ t ∈ code.targets, p.rank t < p.rank step

/-- A bound of the number of steps that a way takes. -/
def bound (p : Program) (step : Nat) (s : Spot) : Nat :=
  (p.steps.size + 2) * s.after.length + p.rank step + 1

/-- The first way from a step on that reaches the end. -/
def first? (p : Program) (step : Nat) (s : Spot) : Option Saves := p.firstWithin? (p.bound step s) step s

theorem lt_size_of_step {code : Step} (h : p.steps[step]? = some code) : step < p.steps.size :=
  (Array.getElem?_eq_some_iff.mp h).1

theorem rank_le (p : Program) (step : Nat) : p.rank step ≤ p.steps.size := by
  cases hstep : p.steps[step]? with
  | none => simp only [rank, hstep, Nat.zero_le]
  | some code =>
    have hlt := lt_size_of_step hstep
    cases code <;> simp only [rank, hstep] <;> omega

theorem bound_past (p : Program) (step : Nat) {c : Char} {rest : List Char} (h : s.after = c :: rest)
    (t : Nat) :
    p.bound t (s.past c rest) < p.bound step s := by
  have hrank := p.rank_le t
  unfold bound Spot.past
  rw [h, List.length_cons, Nat.mul_succ]
  dsimp only
  omega

/-- More steps than the bound lead nowhere else. -/
theorem firstWithin?_eq_of_le (hp : p.Descends) {n fuel other : Nat} (hn : p.bound step s ≤ n)
    (hfuel : p.bound step s ≤ fuel) (hother : p.bound step s ≤ other) :
    p.firstWithin? fuel step s = p.firstWithin? other step s := by
  induction n generalizing step s fuel other with
  | zero => exact absurd hn (Nat.not_succ_le_zero _)
  | succ n ih =>
    obtain ⟨fuel, rfl⟩ := Nat.exists_eq_add_of_le' (Nat.le_trans (Nat.le_add_left 1 _) hfuel)
    obtain ⟨other, rfl⟩ := Nat.exists_eq_add_of_le' (Nat.le_trans (Nat.le_add_left 1 _) hother)
    rw [firstWithin?, firstWithin?]
    cases hstep : p.steps[step]? with
    | none => rfl
    | some code =>
      refine Step.first?_congr (fun t ht => ?_) (fun t c rest hafter => ?_)
      · have hlower : p.bound t s < p.bound step s := by
          have hrank := hp step code hstep t ht
          unfold bound
          omega
        exact ih (by omega) (by omega) (by omega)
      · have hlower := bound_past p step hafter t
        exact ih (by omega) (by omega) (by omega)

theorem first?_eq (hp : p.Descends) (step : Nat) (s : Spot) :
    p.first? step s = p.steps[step]?.bind (Step.first? p.first? s) := by
  rw [first?, bound, firstWithin?]
  cases hstep : p.steps[step]? with
  | none => rfl
  | some code =>
    refine Step.first?_congr (fun t ht => ?_) (fun t c rest hafter => ?_)
    · have hrank := hp step code hstep t ht
      have hlower : p.bound t s ≤ (p.steps.size + 2) * s.after.length + p.rank step := by
        unfold bound
        omega
      exact firstWithin?_eq_of_le hp (Nat.le_refl _) hlower (Nat.le_refl _)
    · have hlower := bound_past p step hafter t
      exact firstWithin?_eq_of_le hp (Nat.le_refl _) (Nat.le_of_lt_succ hlower) (Nat.le_refl _)

theorem first?_of_step (hp : p.Descends) {code : Step} (h : p.steps[step]? = some code) :
    p.first? step s = code.first? p.first? s := by
  rw [first?_eq hp, h]
  rfl

/-- The first way from the start on, at the leftmost place where there is one. -/
def leftmost? (p : Program) : Nat → Option Char → List Char → Option Saves
  | position, before, [] => p.first? p.start ⟨position, before, []⟩
  | position, before, c :: rest =>
    (p.first? p.start ⟨position, before, c :: rest⟩).or (p.leftmost? (position + 1) (some c) rest)

end Program

end Paperwork.Pattern
