import Mathlib.Algebra.Order.BigOperators.Group.Finset
import Paperwork.Proofs.Pattern.Backtracking

/-!
# Ways side by side

A search follows all ways at once and drops a way that reaches a step where another one has been at
the same place. Nothing is lost by that: the other one has a higher priority, and from the step on
both go the same ways (`Reaches.settled`). So a search finds the match of the first way from the
leftmost place where there is one (`Program.find?_eq`).
-/

namespace Paperwork.Pattern

namespace Threads

/-- A step was reached in a round. -/
def Marked (ts : Threads) (round step : Nat) : Prop := ts.reached[step]? = some round

instance (ts : Threads) (round step : Nat) : Decidable (ts.Marked round step) :=
  inferInstanceAs (Decidable (_ = _))

/-- Reaches a step. -/
def mark (ts : Threads) (round step : Nat) : Threads :=
  { ts with reached := ts.reached.setIfInBounds step round }

/-- Adds a thread behind all others. -/
def push (ts : Threads) (t : Thread) : Threads := { ts with list := ts.list.push t }

variable {ts : Threads} {round step other : Nat}

theorem marked_mark (h : (ts.mark round step).Marked round other) :
    ts.Marked round other ∨ other = step := by
  rw [Marked, mark, Array.getElem?_setIfInBounds] at h
  by_cases heq : step = other
  · exact .inr heq.symm
  · rw [if_neg heq] at h
    exact .inl h

theorem marked_mark_self (h : step < ts.reached.size) : (ts.mark round step).Marked round step := by
  rw [Marked, mark, Array.getElem?_setIfInBounds, if_pos rfl, if_pos h]

theorem marked_mark_of_ne (h : other ≠ step) :
    (ts.mark round step).Marked round other ↔ ts.Marked round other := by
  rw [Marked, mark, Array.getElem?_setIfInBounds, if_neg h.symm]
  rfl

end Threads

/-- The threads that go on from a step without a character. -/
def Step.onward (s : Spot) (slots : Slots) : Step → List Thread
  | place p next => if p.holds s then [⟨next, slots⟩] else []
  | save slot next => [⟨next, slots.setIfInBounds slot (some s.position)⟩]
  | split targets => targets.map (⟨·, slots⟩)
  | _ => []

theorem Step.mem_targets_of_onward {s : Spot} {slots : Slots} {code : Step} {t : Thread}
    (h : t ∈ code.onward s slots) : t.step ∈ code.targets := by
  cases code with
  | accept => cases h
  | chars set next => cases h
  | place p next =>
    simp only [onward] at h
    split at h
    · rw [List.mem_singleton.mp h]
      exact List.mem_singleton_self _
    · cases h
  | save slot next =>
    rw [List.mem_singleton.mp h]
    exact List.mem_singleton_self _
  | split targets =>
    obtain ⟨step, hstep, rfl⟩ := List.mem_map.mp h
    exact hstep

theorem Step.length_onward_le (s : Spot) (slots : Slots) (code : Step) :
    (code.onward s slots).length ≤ code.targets.length := by
  cases code with
  | accept => exact Nat.le_refl _
  | chars set next => exact Nat.le_refl _
  | place p next =>
    simp only [onward]
    split
    · exact Nat.le_refl _
    · exact Nat.zero_le _
  | save slot next => exact Nat.le_refl _
  | split targets => exact Nat.le_of_eq (List.length_map _)

/-- A step where threads stop: it takes a character or ends the program. -/
def Step.Waits : Step → Prop
  | accept => True
  | chars _ _ => True
  | _ => False

namespace Program

variable {p : Program} {s : Spot} {t : Thread} {threads more : List Thread}

/-- What a thread has stored at the end of its first way. -/
def result? (p : Program) (s : Spot) (t : Thread) : Option Slots :=
  (p.first? t.step s).map fun saves => saves.store t.slots

/-- What the first thread that reaches the end has stored there. -/
def best? (p : Program) (s : Spot) (threads : List Thread) : Option Slots :=
  threads.findSome? (p.result? s)

theorem best?_append :
    p.best? s (threads ++ more) = (p.best? s threads).or (p.best? s more) :=
  List.findSome?_append

theorem best?_cons : p.best? s (t :: threads) = (p.result? s t).or (p.best? s threads) := by
  rw [best?, List.findSome?_cons]
  cases p.result? s t <;> rfl

theorem best?_singleton : p.best? s [t] = p.result? s t := by
  rw [best?_cons]
  exact Option.or_none

theorem isSome_result? : (p.result? s t).isSome = (p.first? t.step s).isSome := Option.isSome_map

theorem best?_onward (hp : p.Descends) {code : Step} (h : p.steps[t.step]? = some code)
    (hgoes : ¬ code.Waits) : p.best? s (code.onward s t.slots) = p.result? s t := by
  rw [result?, first?_of_step hp h]
  cases code with
  | accept => exact absurd trivial hgoes
  | chars set next => exact absurd trivial hgoes
  | place q next =>
    simp only [Step.onward, Step.first?]
    split
    · exact best?_singleton
    · rfl
  | save slot next =>
    rw [Step.onward, best?_singleton, Step.first?, Option.map_map]
    rfl
  | split targets =>
    rw [Step.onward, Step.first?, best?, List.findSome?_map, List.map_findSome?]
    rfl

end Program

open Program

/-! ## Steps without a character -/

variable {p : Program} {s : Spot} {round fuel : Nat} {t : Thread} {threads more pending : List Thread}
  {ts us vs : Threads} {found others : Option Slots}

@[simp] theorem follow_nil : follow p s round fuel [] ts = ts := by
  cases fuel <;> rfl

theorem follow_of_marked (h : ts.Marked round t.step) :
    follow p s round (fuel + 1) (t :: pending) ts = follow p s round fuel pending ts := by
  rw [follow, if_pos (by rw [h]; exact beq_self_eq_true _)]

theorem follow_of_not_marked (h : ¬ ts.Marked round t.step) :
    follow p s round (fuel + 1) (t :: pending) ts =
      match p.steps[t.step]? with
      | none => follow p s round fuel pending (ts.mark round t.step)
      | some .accept => follow p s round fuel pending ((ts.mark round t.step).push t)
      | some (.chars _ _) => follow p s round fuel pending ((ts.mark round t.step).push t)
      | some code =>
        follow p s round fuel (code.onward s t.slots ++ pending) (ts.mark round t.step) := by
  have hne : (ts.reached[t.step]? == some round) = false := by
    rw [beq_eq_false_iff_ne]
    exact h
  rw [follow, hne, if_neg Bool.false_ne_true]
  cases p.steps[t.step]? with
  | none => rfl
  | some code =>
    cases code with
    | place q next =>
      simp only [Step.onward]
      split <;> rfl
    | _ => rfl

/-- What holds of the threads that were there and are there once other threads were followed. -/
structure Reaches (p : Program) (s : Spot) (round : Nat) (ts us : Threads) (found : Option Slots) :
    Prop where
  best_eq : p.best? s us.list.toList = (p.best? s ts.list.toList).or found
  /-- A way from a step that was reached is not lost. -/
  settled : ∀ step, us.Marked round step → ts.Marked round step ∨
    ((p.first? step s).isSome → (p.best? s us.list.toList).isSome)
  size_eq : us.reached.size = ts.reached.size
  stamp : ∀ step n : Nat, us.reached[step]? = some n → n = round ∨ ts.reached[step]? = some n
  waits : ∀ t ∈ us.list.toList, t ∈ ts.list.toList ∨ ∃ code, p.steps[t.step]? = some code ∧ code.Waits

namespace Reaches

theorem refl (p : Program) (s : Spot) (round : Nat) (ts : Threads) : Reaches p s round ts ts none where
  best_eq := Option.or_none.symm
  settled := fun _ h => .inl h
  size_eq := rfl
  stamp := fun _ _ h => .inr h
  waits := fun _ h => .inl h

/-- What is found stays found. -/
theorem isSome (h : Reaches p s round ts us found) (hbest : (p.best? s ts.list.toList).isSome) :
    (p.best? s us.list.toList).isSome := by
  rw [h.best_eq, Option.isSome_or, hbest, Bool.true_or]

theorem trans (h : Reaches p s round ts us found) (hmore : Reaches p s round us vs others) :
    Reaches p s round ts vs (found.or others) where
  best_eq := by rw [hmore.best_eq, h.best_eq, Option.or_assoc]
  settled := fun step hstep => by
    rcases hmore.settled step hstep with hstep | hstep
    · exact (h.settled step hstep).imp_right fun hsome hfirst => hmore.isSome (hsome hfirst)
    · exact .inr hstep
  size_eq := hmore.size_eq.trans h.size_eq
  stamp := fun step n hn => (hmore.stamp step n hn).elim .inl (h.stamp step n)
  waits := fun t ht => (hmore.waits t ht).elim (h.waits t) .inr

/-- A thread is passed over once another way has been found. -/
theorem of_settled (h : (p.result? s t).isSome → (p.best? s ts.list.toList).isSome) :
    Reaches p s round ts ts (p.result? s t) where
  best_eq := by
    cases hresult : p.result? s t with
    | none => exact Option.or_none.symm
    | some slots =>
      obtain ⟨best, hbest⟩ := Option.isSome_iff_exists.mp (h (by rw [hresult]; rfl))
      rw [hbest, Option.some_or]
  settled := fun _ hstep => .inl hstep
  size_eq := rfl
  stamp := fun _ _ hn => .inr hn
  waits := fun _ ht => .inl ht

/-- A thread that stops is added. -/
theorem push {code : Step} (hstep : p.steps[t.step]? = some code) (hwaits : code.Waits) :
    Reaches p s round ts (ts.push t) (p.result? s t) where
  best_eq := by rw [Threads.push, Array.toList_push, best?_append, best?_singleton]
  settled := fun _ h => .inl h
  size_eq := rfl
  stamp := fun _ _ h => .inr h
  waits := fun u hu => by
    rw [Threads.push, Array.toList_push, List.mem_append, List.mem_singleton] at hu
    exact hu.imp_right fun (h : u = t) => ⟨code, h ▸ hstep, hwaits⟩

/-- A step is reached by the thread whose way was followed from there. -/
theorem of_mark (h : Reaches p s round (ts.mark round t.step) us (p.result? s t)) :
    Reaches p s round ts us (p.result? s t) where
  best_eq := h.best_eq
  settled := fun step hstep => by
    rcases h.settled step hstep with hstep | hstep
    · refine (Threads.marked_mark hstep).imp_right fun heq hfirst => ?_
      rw [h.best_eq, Option.isSome_or, isSome_result?, ← heq, hfirst, Bool.or_true]
    · exact .inr hstep
  size_eq := h.size_eq.trans Array.size_setIfInBounds
  stamp := fun step n hn => by
    rcases h.stamp step n hn with hn | hn
    · exact .inl hn
    · rw [Threads.mark, Array.getElem?_setIfInBounds] at hn
      split at hn
      · split at hn
        · exact .inl (Option.some.inj hn).symm
        · cases hn
      · exact .inr hn
  waits := h.waits

end Reaches

/-! ### Fuel -/

/-- The number of ways out of a step that take no character. -/
def Program.exits (p : Program) (step : Nat) : Nat :=
  p.steps[step]?.elim 0 fun code => code.targets.length

/-- The ways out of the steps that were not reached in a round. -/
def Program.unspent (p : Program) (round : Nat) (ts : Threads) : Nat :=
  ∑ step ∈ Finset.range p.steps.size, if ts.Marked round step then 0 else p.exits step

theorem unspent_mark {step : Nat} {code : Step} (hstep : p.steps[step]? = some code)
    (hsize : ts.reached.size = p.steps.size) (h : ¬ ts.Marked round step) :
    p.unspent round (ts.mark round step) + code.targets.length = p.unspent round ts := by
  have hlt := lt_size_of_step hstep
  have hmem : step ∈ Finset.range p.steps.size := Finset.mem_range.mpr hlt
  have hexits : p.exits step = code.targets.length := by rw [exits, hstep, Option.elim_some]
  unfold unspent
  rw [← Finset.add_sum_erase _ _ hmem, ← Finset.add_sum_erase _ _ hmem,
    if_pos (Threads.marked_mark_self (hsize ▸ hlt)), if_neg h, hexits, Nat.zero_add, Nat.add_comm]
  congr 1
  refine Finset.sum_congr rfl fun other hother => ?_
  simp only [Threads.marked_mark_of_ne (Finset.ne_of_mem_erase hother)]

/-- The ways out of all steps are paid for, if each step pays for its own. -/
theorem add_sum_exits_le {pay : Nat → Step → Nat}
    (hpay : ∀ n code, n + code.targets.length ≤ pay n code) (steps : List Step) (n : Nat) :
    n + (∑ step ∈ Finset.range steps.length,
      steps[step]?.elim 0 fun code => code.targets.length) ≤ steps.foldl pay n := by
  induction steps generalizing n with
  | nil => exact Nat.le_refl n
  | cons code rest ih =>
    rw [List.length_cons, Finset.sum_range_succ', List.foldl_cons]
    simp only [List.getElem?_cons_succ, List.getElem?_cons_zero, Option.elim_some]
    have hcode := hpay n code
    have hrest := ih (pay n code)
    omega

theorem unspent_lt_fuel (p : Program) (round : Nat) (ts : Threads) : p.unspent round ts < p.fuel := by
  have hexits : p.unspent round ts ≤ ∑ step ∈ Finset.range p.steps.toList.length,
      p.steps.toList[step]?.elim 0 fun code => code.targets.length := by
    rw [Array.length_toList]
    refine Finset.sum_le_sum fun step _ => ?_
    split
    · exact Nat.zero_le _
    · rw [exits, Array.getElem?_toList]
  rw [Program.fuel, ← Array.foldl_toList]
  refine Nat.lt_of_lt_of_le ?_ (add_sum_exits_le (fun n code => ?_) p.steps.toList 2)
  · omega
  · cases code <;> simp only [Step.targets, List.length_nil, List.length_singleton] <;> omega

/-- Threads are followed with some of the fuel, before all that wait behind them. -/
def Leads (p : Program) (s : Spot) (round : Nat) (threads : List Thread) (ts us : Threads) : Prop :=
  ∃ spent, spent + p.unspent round us ≤ threads.length + p.unspent round ts ∧
    ∀ fuel pending,
      follow p s round (fuel + spent) (threads ++ pending) ts = follow p s round fuel pending us

namespace Leads

theorem nil : Leads p s round [] ts ts := ⟨0, Nat.le_refl _, fun _ _ => rfl⟩

theorem append (h : Leads p s round threads ts us) (hmore : Leads p s round more us vs) :
    Leads p s round (threads ++ more) ts vs := by
  obtain ⟨spent, hspent, hfollow⟩ := h
  obtain ⟨later, hlater, hgoes⟩ := hmore
  refine ⟨later + spent, ?_, fun fuel pending => ?_⟩
  · rw [List.length_append]
    omega
  · rw [List.append_assoc, ← Nat.add_assoc, hfollow, hgoes]

theorem of_marked (h : ts.Marked round t.step) : Leads p s round [t] ts ts :=
  ⟨1, Nat.le_refl _, fun _ _ => follow_of_marked h⟩

/-- Behind the end of the program there is nothing to reach. -/
theorem of_none (hsize : ts.reached.size = p.steps.size) (h : ¬ ts.Marked round t.step)
    (hstep : p.steps[t.step]? = none) : Leads p s round [t] ts ts := by
  refine ⟨1, Nat.le_refl _, fun fuel pending => ?_⟩
  have hsame : ts.mark round t.step = ts := by
    rw [Threads.mark, Array.setIfInBounds_eq_of_size_le (hsize ▸ Array.getElem?_eq_none_iff.mp hstep)]
  rw [List.singleton_append, follow_of_not_marked h, hstep, hsame]

theorem of_waits {code : Step} (hsize : ts.reached.size = p.steps.size) (h : ¬ ts.Marked round t.step)
    (hstep : p.steps[t.step]? = some code) (hwaits : code.Waits) :
    Leads p s round [t] ts ((ts.mark round t.step).push t) := by
  have hmark := unspent_mark hstep hsize h
  refine ⟨1, ?_, fun fuel pending => ?_⟩
  · show 1 + p.unspent round (ts.mark round t.step) ≤ 1 + p.unspent round ts
    omega
  · rw [List.singleton_append, follow_of_not_marked h, hstep]
    cases code with
    | accept => rfl
    | chars set next => rfl
    | _ => exact absurd hwaits id

theorem of_onward {code : Step} (hsize : ts.reached.size = p.steps.size)
    (h : ¬ ts.Marked round t.step) (hstep : p.steps[t.step]? = some code) (hgoes : ¬ code.Waits)
    (honward : Leads p s round (code.onward s t.slots) (ts.mark round t.step) us) :
    Leads p s round [t] ts us := by
  obtain ⟨spent, hspent, hfollow⟩ := honward
  have hmark := unspent_mark hstep hsize h
  have hlength := code.length_onward_le s t.slots
  refine ⟨spent + 1, ?_, fun fuel pending => ?_⟩
  · rw [List.length_singleton]
    omega
  · rw [List.singleton_append, ← Nat.add_assoc, follow_of_not_marked h, hstep, ← hfollow]
    cases code with
    | accept => exact absurd trivial hgoes
    | chars set next => exact absurd trivial hgoes
    | _ => rfl

end Leads

/-- A way from a step that was reached is not lost, up to a rank. -/
def SettledBelow (p : Program) (s : Spot) (round rank : Nat) (ts : Threads) : Prop :=
  ∀ step, ts.Marked round step → p.rank step < rank → (p.first? step s).isSome →
    (p.best? s ts.list.toList).isSome

theorem SettledBelow.of_reaches {rank : Nat} (hsettled : SettledBelow p s round rank ts)
    (h : Reaches p s round ts us found) : SettledBelow p s round rank us := by
  intro step hstep hrank hfirst
  rcases h.settled step hstep with hstep | hsome
  · exact h.isSome (hsettled step hstep hrank hfirst)
  · exact hsome hfirst

/-- One thread is followed, given that those it goes on with are. -/
theorem exists_leads_singleton (hp : p.Descends) (hsize : ts.reached.size = p.steps.size)
    (hsettled : SettledBelow p s round (p.rank t.step + 1) ts)
    (honward : ∀ code, p.steps[t.step]? = some code → ¬ code.Waits →
      ∃ us, Leads p s round (code.onward s t.slots) (ts.mark round t.step) us ∧
        Reaches p s round (ts.mark round t.step) us (p.best? s (code.onward s t.slots))) :
    ∃ us, Leads p s round [t] ts us ∧ Reaches p s round ts us (p.result? s t) := by
  by_cases hmarked : ts.Marked round t.step
  · refine ⟨ts, .of_marked hmarked, .of_settled fun hsome => ?_⟩
    exact hsettled t.step hmarked (Nat.lt_succ_self _) (isSome_result? ▸ hsome)
  cases hstep : p.steps[t.step]? with
  | none =>
    have hnone : p.result? s t = none := by rw [result?, first?_eq hp, hstep]; rfl
    exact ⟨ts, .of_none hsize hmarked hstep, hnone ▸ .refl p s round ts⟩
  | some code =>
    by_cases hwaits : code.Waits
    · exact ⟨_, .of_waits hsize hmarked hstep hwaits, .of_mark (.push hstep hwaits)⟩
    · obtain ⟨us, hleads, hreaches⟩ := honward code hstep hwaits
      rw [best?_onward hp hstep hwaits] at hreaches
      exact ⟨us, .of_onward hsize hmarked hstep hwaits hleads, .of_mark hreaches⟩

/--
Threads are followed to the end of their steps without a character. The induction is on the rank: a
step that was reached but is not followed to the end yet has a higher rank than all that are left.
-/
theorem exists_leads (hp : p.Descends) (rank : Nat) (threads : List Thread) (ts : Threads)
    (hrank : ∀ t ∈ threads, p.rank t.step < rank) (hsize : ts.reached.size = p.steps.size)
    (hsettled : SettledBelow p s round rank ts) :
    ∃ us, Leads p s round threads ts us ∧ Reaches p s round ts us (p.best? s threads) := by
  induction rank using Nat.strong_induction_on generalizing threads ts with
  | _ rank ih =>
    induction threads generalizing ts with
    | nil => exact ⟨ts, .nil, .refl p s round ts⟩
    | cons t rest ihrest =>
      rw [List.forall_mem_cons] at hrank
      have hlower : ∀ other, ts.Marked round other → p.rank other ≤ p.rank t.step →
          (p.first? other s).isSome → (p.best? s ts.list.toList).isSome :=
        fun other hother hle => hsettled other hother (Nat.lt_of_le_of_lt hle hrank.1)
      obtain ⟨us, hleads, hreaches⟩ := exists_leads_singleton (t := t) hp hsize
        (fun other hother hle => hlower other hother (Nat.le_of_lt_succ hle))
        (fun code hstep _ => by
          refine ih (p.rank t.step) hrank.1 (code.onward s t.slots) (ts.mark round t.step)
            (fun u hu => hp t.step code hstep u.step (Step.mem_targets_of_onward hu))
            (Array.size_setIfInBounds.trans hsize) (fun other hother hless => ?_)
          rcases Threads.marked_mark hother with hother | rfl
          · exact hlower other hother (Nat.le_of_lt hless)
          · exact absurd hless (Nat.lt_irrefl _))
      obtain ⟨vs, hlater, hmore⟩ := ihrest us hrank.2 (hreaches.size_eq.trans hsize)
        (hsettled.of_reaches hreaches)
      refine ⟨vs, hleads.append hlater, ?_⟩
      rw [best?_cons]
      exact hreaches.trans hmore

/-- No way from a step that was reached is lost. -/
def Settled (p : Program) (s : Spot) (round : Nat) (ts : Threads) : Prop :=
  ∀ rank, SettledBelow p s round rank ts

theorem Settled.of_reaches (hsettled : Settled p s round ts) (h : Reaches p s round ts us found) :
    Settled p s round us :=
  fun rank => (hsettled rank).of_reaches h

/-- A thread is followed, and its first way counts behind those that were there. -/
theorem reaches_follow (hp : p.Descends) (hsize : ts.reached.size = p.steps.size)
    (hsettled : Settled p s round ts) (t : Thread) :
    Reaches p s round ts (follow p s round p.fuel [t] ts) (p.result? s t) := by
  obtain ⟨us, ⟨spent, hspent, hfollow⟩, hreaches⟩ := exists_leads hp (p.rank t.step + 1) [t] ts
    (fun u hu => by rw [List.mem_singleton.mp hu]; exact Nat.lt_succ_self _) hsize
    (hsettled _)
  rw [List.length_singleton] at hspent
  have hfuel : p.fuel = p.fuel - spent + spent := by
    have hlt := unspent_lt_fuel p round ts
    omega
  rw [hfuel, ← List.append_nil [t], hfollow, follow_nil, ← best?_singleton]
  exact hreaches

/-! ## One character -/

/-- A thread at a step that takes a character. -/
def Thread.Takes (p : Program) (t : Thread) : Prop :=
  ∃ set next, p.steps[t.step]? = some (.chars set next)

theorem best?_finished (hp : p.Descends)
    (hwaits : ∀ t ∈ threads, ∃ code, p.steps[t.step]? = some code ∧ code.Waits) :
    p.best? s threads = (p.best? s (finished p threads).2).or (finished p threads).1 ∧
      ∀ t ∈ (finished p threads).2, t.Takes p := by
  induction threads with
  | nil => exact ⟨rfl, fun t ht => absurd ht List.not_mem_nil⟩
  | cons t rest ih =>
    rw [List.forall_mem_cons] at hwaits
    obtain ⟨⟨code, hstep, hcode⟩, hrest⟩ := hwaits
    obtain ⟨hbest, htakes⟩ := ih hrest
    rw [finished, best?_cons]
    cases code with
    | accept =>
      simp only [hstep]
      refine ⟨?_, fun t ht => absurd ht List.not_mem_nil⟩
      rw [result?, first?_of_step hp hstep]
      rfl
    | chars set next =>
      simp only [hstep]
      refine ⟨?_, List.forall_mem_cons.mpr ⟨⟨set, next, hstep⟩, htakes⟩⟩
      rw [best?_cons, hbest, Option.or_assoc]
    | _ => exact absurd hcode id

/-- At the end of the text no thread takes a character. -/
theorem best?_end (hp : p.Descends) (htakes : ∀ t ∈ threads, t.Takes p) (hend : s.after = []) :
    p.best? s threads = none := by
  refine List.findSome?_eq_none_iff.mpr fun t ht => ?_
  obtain ⟨set, next, hstep⟩ := htakes t ht
  rw [result?, first?_of_step hp hstep, Step.first?, hend]
  rfl

variable {c : Char} {rest : List Char}

theorem reaches_advance (ts : Threads) (hp : p.Descends) (htakes : ∀ t ∈ threads, t.Takes p)
    (hafter : s.after = c :: rest) (hsize : ts.reached.size = p.steps.size)
    (hsettled : Settled p (s.past c rest) round ts) :
    Reaches p (s.past c rest) round ts (advance p c (s.past c rest) round p.fuel threads ts)
      (p.best? s threads) := by
  induction threads generalizing ts with
  | nil => exact .refl _ _ _ _
  | cons t later ih =>
    rw [List.forall_mem_cons] at htakes
    obtain ⟨⟨set, next, hstep⟩, hlater⟩ := htakes
    rw [advance, hstep, best?_cons, result?, first?_of_step hp hstep, Step.first?, hafter]
    simp only
    split
    · have hreaches := reaches_follow hp hsize hsettled ⟨next, t.slots⟩
      exact hreaches.trans
        (ih _ hlater (hreaches.size_eq.trans hsize) (hsettled.of_reaches hreaches))
    · exact ih ts hlater hsize hsettled

/-! ## All characters -/

/-- The slots of a new thread. -/
def Program.blank (p : Program) : Slots := Array.replicate (2 * p.groups) none

/-- A new thread. -/
def Program.begin (p : Program) : Thread := ⟨p.start, p.blank⟩

/-- No step was reached after a place. -/
def IsUpTo (position : Nat) (reached : Array Nat) : Prop :=
  ∀ step n : Nat, reached[step]? = some n → n ≤ position + 1

/-- What is known at a place, against what was known before the new thread was started there. -/
structure Arrives (p : Program) (s : Spot) (found : Option Slots) (ts : Threads) (front : Front) :
    Prop where
  best_eq : (p.best? s front.alive).or front.found =
    (p.best? s ts.list.toList).or (found.or (p.result? s p.begin))
  takes : ∀ t ∈ front.alive, t.Takes p
  size_eq : front.reached.size = ts.reached.size
  isUpTo : IsUpTo s.position front.reached

theorem arrives (hp : p.Descends) (hsize : ts.reached.size = p.steps.size)
    (hsettled : Settled p s (s.position + 1) ts) (hupTo : IsUpTo s.position ts.reached)
    (hwaits : ∀ t ∈ ts.list.toList, ∃ code, p.steps[t.step]? = some code ∧ code.Waits)
    (found : Option Slots) : Arrives p s found ts (arrive p p.fuel s found ts) := by
  cases found with
  | some slots =>
    obtain ⟨hbest, htakes⟩ := best?_finished (s := s) hp hwaits
    refine ⟨?_, htakes, rfl, hupTo⟩
    rw [hbest, Option.or_assoc, Option.some_or]
    simp only [arrive, Option.orElse_eq_orElse, Option.orElse_eq_or]
  | none =>
    have hreaches := reaches_follow hp hsize hsettled p.begin
    obtain ⟨hbest, htakes⟩ := best?_finished (s := s) hp
      fun t ht => (hreaches.waits t ht).elim (hwaits t) id
    refine ⟨?_, htakes, hreaches.size_eq, fun step n hn => ?_⟩
    · rw [Option.none_or, ← hreaches.best_eq, hbest]
      simp only [arrive, Option.orElse_eq_orElse, Option.orElse_eq_or, Option.or_none]
      rfl
    · exact (hreaches.stamp step n hn).elim (fun heq => Nat.le_of_eq heq) (hupTo step n)

/-- A search finds the first way from the leftmost place, unless the ways so far lead somewhere. -/
theorem run_eq (ts : Threads) (hp : p.Descends) {position : Nat} {before : Option Char} {after : List Char}
    (hsize : ts.reached.size = p.steps.size)
    (hsettled : Settled p ⟨position, before, after⟩ (position + 1) ts)
    (hupTo : IsUpTo position ts.reached)
    (hwaits : ∀ t ∈ ts.list.toList, ∃ code, p.steps[t.step]? = some code ∧ code.Waits) :
    run p p.fuel position before found ts after =
      (p.best? ⟨position, before, after⟩ ts.list.toList).or
        (found.or ((p.leftmost? position before after).map fun saves => saves.store p.blank)) := by
  induction after generalizing position before found ts with
  | nil =>
    obtain ⟨hbest, htakes, -, -⟩ := arrives hp hsize hsettled hupTo hwaits found
    rw [best?_end hp htakes rfl, Option.none_or] at hbest
    exact hbest
  | cons c rest ih =>
    obtain ⟨hbest, htakes, hsizeFront, hupToFront⟩ := arrives hp hsize hsettled hupTo hwaits found
    have hright : (p.best? ⟨position, before, c :: rest⟩ ts.list.toList).or
        (found.or ((p.leftmost? position before (c :: rest)).map fun saves => saves.store p.blank)) =
        ((p.best? ⟨position, before, c :: rest⟩ ts.list.toList).or
          (found.or (p.result? ⟨position, before, c :: rest⟩ p.begin))).or
          ((p.leftmost? (position + 1) (some c) rest).map fun saves => saves.store p.blank) := by
      rw [Program.leftmost?, Option.map_or, Option.or_assoc, Option.or_assoc]
      rfl
    rw [hright, ← hbest, run]
    generalize arrive p p.fuel ⟨position, before, c :: rest⟩ found ts = front at *
    simp only
    split
    · rename_i hdone
      rw [Bool.and_eq_true, List.isEmpty_iff] at hdone
      obtain ⟨slots, hslots⟩ := Option.isSome_iff_exists.mp hdone.2
      rw [hdone.1, hslots]
      rfl
    · -- no step has been reached yet in the round of the next place
      have hfresh : Settled p ⟨position + 1, some c, rest⟩ (position + 2) ⟨#[], front.reached⟩ :=
        fun _ step hstep => absurd (hupToFront step _ hstep) (Nat.not_succ_le_self _)
      have hreaches := reaches_advance (s := ⟨position, before, c :: rest⟩) ⟨#[], front.reached⟩ hp htakes
        rfl (hsizeFront.trans hsize) hfresh
      simp only [Spot.past] at hreaches
      rw [Option.or_assoc, ih _ (hreaches.size_eq.trans (hsizeFront.trans hsize))
        (hfresh.of_reaches hreaches)]
      · rw [hreaches.best_eq]
        rfl
      · intro step n hn
        exact (hreaches.stamp step n hn).elim Nat.le_of_eq fun h => Nat.le_succ_of_le (hupToFront step n h)
      · intro t ht
        exact (hreaches.waits t ht).elim (fun h => absurd h List.not_mem_nil) id

/-- The match of a way. -/
def Program.matchOf (p : Program) (saves : Saves) : Option Match :=
  let groups := spansOf (saves.store p.blank) p.groups
  match groups.head? with
  | some (some (a, b)) => some ⟨a, b, groups⟩
  | _ => none

/-- A search finds the match of the first way from the leftmost place where there is one. -/
theorem Program.find?_eq (hp : p.Descends) (position : Nat) (before : Option Char)
    (after : List Char) :
    p.find? position before after = (p.leftmost? position before after).bind p.matchOf := by
  have hzero : ∀ step n : Nat, (Array.replicate p.steps.size 0)[step]? = some n → n = 0 := by
    intro step n hn
    rw [Array.getElem?_replicate] at hn
    split at hn
    · exact (Option.some.inj hn).symm
    · cases hn
  rw [find?]
  simp only
  rw [run_eq ⟨#[], Array.replicate p.steps.size 0⟩ hp Array.size_replicate
    (fun _ step hstep => absurd (hzero step _ hstep) (Nat.succ_ne_zero _))
    (fun step n hn => hzero step n hn ▸ Nat.zero_le _) (fun t ht => absurd ht List.not_mem_nil)]
  cases p.leftmost? position before after <;> rfl

end Paperwork.Pattern
