import Paperwork.Proofs.Outcome
import Paperwork.Proofs.Pattern.Layout
import Paperwork.Proofs.Pattern.Run

/-!
# Where matches stand

The step at the end of a program is reached only by saving where the match stops, and no other step
leads there (`Program.Closes`); the code of every node is of this kind (`closes_ofNode`). As a search
saves nothing but places that it has come to, a match starts where the search starts or later, and
does not stop before it starts (`find?_within`). So the matches of a text stand one after the other
(`successive_matches`).
-/

namespace Paperwork.Pattern

/-! ## Code around the end -/

/-- A step that is not the end and does not lead there. The end is the step of number zero. -/
def Step.IsInner : Step → Prop
  | accept => False
  | chars _ next => next ≠ 0
  | place _ next => next ≠ 0
  | save _ next => next ≠ 0
  | split targets => 0 ∉ targets

/-- Code grows by inner steps. -/
structure GrowsInside (code : Array Step) (first : Nat) (grown : Array Step) : Prop where
  keeps : ∀ i < code.size, grown[i]? = code[i]?
  size_le : code.size ≤ grown.size
  first_ne : first ≠ 0
  inner : ∀ i step, code.size ≤ i → grown[i]? = some step → step.IsInner

/-- A layout that adds inner steps to code that has an end. -/
def LaysInside (layout : Layout) : Prop :=
  ∀ next code, next ≠ 0 → 0 < code.size → GrowsInside code (layout next code).1 (layout next code).2

section Layouts

variable {code grown full : Array Step} {first next start : Nat} {step : Step} {body : Layout}
  {greedy : Bool}

theorem isInner_choice (hfirst : first ≠ 0) (hnext : next ≠ 0) : (choice greedy first next).IsInner := by
  cases greedy with
  | true => simpa [choice, Step.IsInner] using ⟨hfirst.symm, hnext.symm⟩
  | false => simpa [choice, Step.IsInner] using ⟨hnext.symm, hfirst.symm⟩

namespace GrowsInside

theorem refl (h : next ≠ 0) : GrowsInside code next code where
  keeps := fun _ _ => rfl
  size_le := Nat.le_refl _
  first_ne := h
  inner := fun _ _ hi hstep =>
    absurd (Array.getElem?_eq_some_iff.mp hstep).1 (Nat.not_lt_of_le hi)

theorem trans (h : GrowsInside code first grown) (hmore : GrowsInside grown start full) :
    GrowsInside code start full where
  keeps := fun i hi => (hmore.keeps i (Nat.lt_of_lt_of_le hi h.size_le)).trans (h.keeps i hi)
  size_le := Nat.le_trans h.size_le hmore.size_le
  first_ne := hmore.first_ne
  inner := fun i step hi hstep => by
    rcases Nat.lt_or_ge i grown.size with hlt | hge
    · rw [hmore.keeps i hlt] at hstep
      exact h.inner i step hi hstep
    · exact hmore.inner i step hge hstep

theorem add (hsize : 0 < code.size) (hstep : step.IsInner) :
    GrowsInside code (add step code).1 (add step code).2 where
  keeps := fun _ => getElem?_add_of_lt
  size_le := by
    rw [size_add]
    exact Nat.le_succ _
  first_ne := Nat.ne_of_gt hsize
  inner := fun i other hi hother => by
    obtain ⟨-, rfl⟩ := eq_of_getElem?_add hi hother
    exact hstep

/-- A place that was kept free for a step takes an inner one. -/
theorem fill (h : GrowsInside (code.push .accept) first grown) (hstart : start ≠ 0)
    (hstep : step.IsInner) : GrowsInside code start (grown.setIfInBounds code.size step) where
  keeps := fun i hi => by
    rw [Array.getElem?_setIfInBounds_ne (Nat.ne_of_gt hi),
      h.keeps i (by rw [Array.size_push]; omega), Array.getElem?_push, if_neg (Nat.ne_of_lt hi)]
  size_le := by
    have hsize := h.size_le
    rw [Array.size_push] at hsize
    rw [Array.size_setIfInBounds]
    omega
  first_ne := hstart
  inner := fun i other hi hother => by
    rw [Array.getElem?_setIfInBounds] at hother
    split at hother
    · split at hother
      · exact Option.some.inj hother ▸ hstep
      · cases hother
    · exact h.inner i other (by rw [Array.size_push]; omega) hother

end GrowsInside

theorem laysInside_loop (h : LaysInside body) (greedy : Bool) : LaysInside (loop body greedy) := by
  intro next code hnext hsize
  have hbody := h code.size (code.push .accept) (Nat.ne_of_gt hsize) (by rw [Array.size_push]; omega)
  exact hbody.fill hbody.first_ne (isInner_choice hbody.first_ne hnext)

theorem laysInside_star (h : LaysInside body) (greedy : Bool) : LaysInside (star body greedy) := by
  intro next code hnext hsize
  have hbody := h code.size (code.push .accept) (Nat.ne_of_gt hsize) (by rw [Array.size_push]; omega)
  exact hbody.fill (Nat.ne_of_gt hsize) (isInner_choice hbody.first_ne hnext)

theorem laysInside_times (h : LaysInside body) (n : Nat) : LaysInside (times body n) := by
  intro next code hnext hsize
  induction n with
  | zero => exact .refl hnext
  | succ n ih => exact ih.trans (h _ _ ih.first_ne (Nat.lt_of_lt_of_le hsize ih.size_le))

theorem laysInside_upTo (h : LaysInside body) (greedy : Bool) (n : Nat) :
    LaysInside (upTo body greedy n) := by
  intro next code hnext hsize
  induction n with
  | zero => exact .refl hnext
  | succ n ih =>
    have hrest := Nat.lt_of_lt_of_le hsize ih.size_le
    have hbody := h _ _ ih.first_ne hrest
    exact (ih.trans hbody).trans
      (.add (Nat.lt_of_lt_of_le hrest hbody.size_le) (isInner_choice hbody.first_ne hnext))

theorem laysInside_text (cs : List Char) : LaysInside (textLayout cs) := by
  intro next code hnext hsize
  induction cs with
  | nil => exact .refl hnext
  | cons c rest ih =>
    rw [Node.textLayout_cons]
    exact ih.trans (.add (Nat.lt_of_lt_of_le hsize ih.size_le) ih.first_ne)

/-- Layouts one after the other: the second one is laid out first. -/
theorem LaysInside.trans {other : Layout} (h : LaysInside body) (hother : LaysInside other) :
    LaysInside fun next code => other (body next code).1 (body next code).2 := by
  intro next code hnext hsize
  have hbody := h next code hnext hsize
  exact hbody.trans (hother _ _ hbody.first_ne (Nat.lt_of_lt_of_le hsize hbody.size_le))

theorem laysInside_step (step : Nat → Step) (h : ∀ next ≠ 0, (step next).IsInner) :
    LaysInside fun next code => add (step next) code :=
  fun next _ hnext hsize => .add hsize (h next hnext)

theorem laysInside_repeated (h : LaysInside body) (n : Node) (hn : n.layout = body) (least : Nat)
    (most : Option Nat) (greedy : Bool) : LaysInside (Node.repeated n least most greedy).layout := by
  subst hn
  have hloop := laysInside_loop h greedy
  intro next code hnext hsize
  rw [Node.layout]
  cases most with
  | some most =>
    exact (laysInside_upTo h greedy (most - least)).trans (laysInside_times h least) next code hnext
      hsize
  | none =>
    simp only
    split
    · split
      · have hbody := hloop next code hnext hsize
        exact hbody.trans (.add (Nat.lt_of_lt_of_le hsize hbody.size_le)
          (isInner_choice hbody.first_ne hnext))
      · exact laysInside_star h greedy next code hnext hsize
    · exact hloop.trans (laysInside_times h (least - 1)) next code hnext hsize

end Layouts

mutual

/-- The code of a node has inner steps only. -/
theorem laysInside_node : ∀ n : Node, LaysInside n.layout
  | .empty => fun _ _ hnext _ => .refl hnext
  | .text cs => laysInside_text cs
  | .chars set => laysInside_step (.chars set) fun _ hnext => hnext
  | .place p => laysInside_step (.place p) fun _ hnext => hnext
  | .capture index name sub =>
    ((laysInside_step (.save (2 * index + 1)) fun _ hnext => hnext).trans (laysInside_node sub)).trans
      (laysInside_step (.save (2 * index)) fun _ hnext => hnext)
  | .concat parts => laysInside_nodes parts
  | .alternation parts => fun next code hnext hsize => by
    have hparts := growsInside_each parts next code hnext hsize
    exact hparts.2.trans (.add (Nat.lt_of_lt_of_le hsize hparts.2.size_le) hparts.1)
  | .repeated sub least most greedy =>
    laysInside_repeated (laysInside_node sub) sub rfl least most greedy

theorem laysInside_nodes : ∀ parts : List Node, LaysInside (Node.layoutAll parts)
  | [] => fun _ _ hnext _ => .refl hnext
  | part :: rest => (laysInside_nodes rest).trans (laysInside_node part)

theorem growsInside_each : ∀ (parts : List Node) (next : Nat) (code : Array Step), next ≠ 0 →
    0 < code.size → 0 ∉ (Node.layoutEach parts next code).1 ∧
      GrowsInside code next (Node.layoutEach parts next code).2
  | [], _, _, hnext, _ => ⟨List.not_mem_nil, .refl hnext⟩
  | part :: rest, next, code, hnext, hsize => by
    have hpart := laysInside_node part next code hnext hsize
    have hrest := growsInside_each rest next _ hnext (Nat.lt_of_lt_of_le hsize hpart.size_le)
    refine ⟨?_, hpart.trans hrest.2⟩
    rw [Node.layoutEach]
    exact List.not_mem_cons_of_ne_of_not_mem hpart.first_ne.symm hrest.1

end

/-- A program that ends behind the step that saves where the match stops, and leads there only so. -/
structure Program.Closes (p : Program) : Prop where
  accept : p.steps[0]? = some .accept
  stop : p.steps[1]? = some (.save 1 0)
  inner : ∀ i step, 2 ≤ i → p.steps[i]? = some step → step.IsInner
  start_ne : p.start ≠ 0

theorem closes_ofNode (n : Node) : (Program.ofNode n).Closes := by
  have hsub := laysInside_node n 1 #[.accept, .save 1 0] Nat.one_ne_zero (Nat.succ_pos 1)
  have hwhole : GrowsInside #[.accept, .save 1 0] (Program.ofNode n).start (Program.ofNode n).steps :=
    hsub.trans (.add (Nat.lt_of_lt_of_le (Nat.succ_pos 1) hsub.size_le) hsub.first_ne)
  exact {
    accept := hwhole.keeps 0 (Nat.succ_pos 1)
    stop := hwhole.keeps 1 (Nat.lt_succ_self 1)
    inner := fun i step hi => hwhole.inner i step hi
    start_ne := hwhole.first_ne }

theorem closes_of_compile {pattern : String} {p : Program} (h : Program.compile pattern = .ok p) :
    p.Closes := by
  unfold Program.compile at h
  obtain ⟨tree, -, h⟩ := bind_eq_ok_iff.mp h
  obtain ⟨⟨n, switches⟩, -, h⟩ := bind_eq_ok_iff.mp h
  simp only at h
  split at h
  · cases h
  · obtain rfl := pure_eq_ok_iff.mp h
    exact closes_ofNode n

/-! ## Threads -/

/--
A thread has saved nothing but places from where the search started up to the one that it has come
to, and if it has come to the end, this one as the place where the match stops.
-/
structure Thread.Within (t : Thread) (start position : Nat) : Prop where
  saved : ∀ slot place : Nat, t.slots[slot]? = some (some place) → start ≤ place ∧ place ≤ position
  stops : t.step = 0 → ∀ place : Nat, t.slots[1]? = some (some place) → place = position

/-- The places that are saved as those of the match are in order. -/
def Slots.Span (slots : Slots) (start stop : Nat) : Prop :=
  ∀ a b : Nat, slots[0]? = some (some a) → slots[1]? = some (some b) → start ≤ a ∧ a ≤ b ∧ b ≤ stop

section Search

variable {p : Program} {s : Spot} {start stop position fuel : Nat} {t : Thread}
  {threads pending : List Thread} {ts : Threads} {found : Option Slots}

theorem Slots.Span.mono {slots : Slots} (h : Slots.Span slots start position) (hle : position ≤ stop) :
    Slots.Span slots start stop := fun a b ha hb =>
  have hspan := h a b ha hb
  ⟨hspan.1, hspan.2.1, Nat.le_trans hspan.2.2 hle⟩

theorem Program.Closes.isInner_or {code : Step} (hp : p.Closes) {i : Nat}
    (h : p.steps[i]? = some code) : code = .accept ∧ i = 0 ∨ code = .save 1 0 ∨ code.IsInner := by
  rcases Nat.lt_or_ge i 2 with hlt | hge
  · obtain rfl | rfl : i = 0 ∨ i = 1 := by omega
    · rw [hp.accept] at h
      exact .inl ⟨(Option.some.inj h).symm, rfl⟩
    · rw [hp.stop] at h
      exact .inr (.inl (Option.some.inj h).symm)
  · exact .inr (.inr (hp.inner i code hge h))

/-- A thread that saves nothing and does not come to the end stays within its places. -/
theorem Thread.Within.goOn (h : t.Within start position) {next : Nat} (hnext : next ≠ 0)
    (hle : position ≤ stop) : Thread.Within ⟨next, t.slots⟩ start stop where
  saved := fun slot place hplace =>
    ⟨(h.saved slot place hplace).1, Nat.le_trans (h.saved slot place hplace).2 hle⟩
  stops := fun hzero => absurd hzero hnext

theorem Thread.Within.save (h : t.Within start position) (hstart : start ≤ position) {slot next : Nat}
    (hnext : next = 0 → slot = 1) :
    Thread.Within ⟨next, t.slots.setIfInBounds slot (some position)⟩ start position where
  saved := fun other place hplace => by
    rw [Array.getElem?_setIfInBounds] at hplace
    split at hplace
    · split at hplace
      · cases hplace
        exact ⟨hstart, Nat.le_refl _⟩
      · cases hplace
    · exact h.saved other place hplace
  stops := fun hzero place hplace => by
    rw [Array.getElem?_setIfInBounds, if_pos (hnext hzero)] at hplace
    split at hplace
    · cases hplace
      rfl
    · cases hplace

theorem within_onward (hp : p.Closes) (hstart : start ≤ s.position) (ht : t.Within start s.position)
    {code : Step} (hcode : p.steps[t.step]? = some code) :
    ∀ u ∈ code.onward s t.slots, u.Within start s.position := by
  rcases hp.isInner_or hcode with ⟨rfl, -⟩ | rfl | hinner
  · exact fun u hu => absurd hu List.not_mem_nil
  · intro u hu
    rw [List.mem_singleton.mp hu]
    exact ht.save hstart fun _ => rfl
  · intro u hu
    cases code with
    | accept => cases hu
    | chars => cases hu
    | place q next =>
      simp only [Step.onward] at hu
      split at hu
      · rw [List.mem_singleton.mp hu]
        exact ht.goOn hinner (Nat.le_refl _)
      · cases hu
    | save slot next =>
      rw [List.mem_singleton.mp hu]
      exact ht.save hstart fun hzero => absurd hzero hinner
    | split targets =>
      obtain ⟨target, htarget, rfl⟩ := List.mem_map.mp hu
      exact ht.goOn (fun hzero => hinner (hzero ▸ htarget)) (Nat.le_refl _)

/-- All threads of a list are within their places. -/
abbrev AllWithin (threads : List Thread) (start position : Nat) : Prop :=
  ∀ t ∈ threads, t.Within start position

theorem within_follow (round fuel : Nat) (hp : p.Closes) (hstart : start ≤ s.position)
    (hpending : AllWithin pending start s.position) (hts : AllWithin ts.list.toList start s.position) :
    AllWithin (follow p s round fuel pending ts).list.toList start s.position := by
  induction fuel generalizing pending ts with
  | zero => exact hts
  | succ fuel ih =>
    cases pending with
    | nil => rwa [follow_nil]
    | cons t pending =>
      obtain ⟨ht, hpending⟩ := List.forall_mem_cons.mp hpending
      by_cases hmarked : ts.Marked round t.step
      · rw [follow_of_marked hmarked]
        exact ih hpending hts
      · have hpush : AllWithin ((ts.mark round t.step).push t).list.toList start s.position := by
          rw [Threads.push, Array.toList_push]
          exact List.forall_mem_append.mpr ⟨hts, List.forall_mem_singleton.mpr ht⟩
        rw [follow_of_not_marked hmarked]
        split
        · exact ih hpending hts
        · exact ih hpending hpush
        · exact ih hpending hpush
        · rename_i code _ _ hcode
          exact ih (List.forall_mem_append.mpr ⟨within_onward hp hstart ht hcode, hpending⟩) hts

/-- What the first thread at the end has saved is a span, and the threads before it go on. -/
theorem span_finished (hp : p.Closes) (h : AllWithin threads start position) :
    (∀ slots, (finished p threads).1 = some slots → Slots.Span slots start position) ∧
      AllWithin (finished p threads).2 start position := by
  induction threads with
  | nil => exact ⟨nofun, h⟩
  | cons t rest ih =>
    obtain ⟨ht, hrest⟩ := List.forall_mem_cons.mp h
    rw [finished]
    split
    · rename_i haccept
      -- the threads behind one that has come to the end are dropped
      refine ⟨fun slots hslots => ?_, fun u hu => absurd hu List.not_mem_nil⟩
      obtain rfl := Option.some.inj hslots
      have hzero : t.step = 0 := by
        rcases hp.isInner_or haccept with ⟨-, hzero⟩ | hsave | hinner
        · exact hzero
        · cases hsave
        · exact hinner.elim
      intro a b ha hb
      obtain rfl := ht.stops hzero b hb
      exact ⟨(ht.saved 0 a ha).1, (ht.saved 0 a ha).2, Nat.le_refl _⟩
    · exact ⟨(ih hrest).1, List.forall_mem_cons.mpr ⟨ht, (ih hrest).2⟩⟩

theorem within_advance (round fuel : Nat) (c : Char) (hp : p.Closes) (hposition : s.position = position + 1)
    (hstart : start ≤ position) (h : AllWithin threads start position)
    (hts : AllWithin ts.list.toList start s.position) :
    AllWithin (advance p c s round fuel threads ts).list.toList start s.position := by
  induction threads generalizing ts with
  | nil => exact hts
  | cons t rest ih =>
    obtain ⟨ht, hrest⟩ := List.forall_mem_cons.mp h
    rw [advance]
    split
    · rename_i set next hchars
      split
      · refine ih hrest (within_follow round fuel hp (by omega) ?_ hts)
        have hnext : next ≠ 0 := by
          rcases hp.isInner_or hchars with ⟨haccept, -⟩ | hsave | hinner
          · cases haccept
          · cases hsave
          · exact hinner
        exact List.forall_mem_singleton.mpr (ht.goOn hnext (by omega))
      · exact ih hrest hts
    · exact ih hrest hts

/-- A thread that has saved nothing. -/
theorem within_begin (hp : p.Closes) (start position : Nat) :
    Thread.Within ⟨p.start, Array.replicate (2 * p.groups) none⟩ start position where
  saved := fun slot place hplace => by
    rw [Array.getElem?_replicate] at hplace
    split at hplace <;> cases hplace
  stops := fun hzero => absurd hzero hp.start_ne

/-- What is known at a place: a match that was found is a span, and the threads go on. -/
theorem span_arrive (fuel : Nat) (hp : p.Closes) (hstart : start ≤ s.position)
    (hfound : ∀ slots, found = some slots → Slots.Span slots start s.position)
    (hts : AllWithin ts.list.toList start s.position) :
    (∀ slots, (arrive p fuel s found ts).found = some slots → Slots.Span slots start s.position) ∧
      AllWithin (arrive p fuel s found ts).alive start s.position := by
  cases found with
  | some slots =>
    have heq : (arrive p fuel s (some slots) ts).found =
        (finished p ts.list.toList).1.or (some slots) := by
      simp only [arrive, Option.orElse_eq_orElse, Option.orElse_eq_or]
    obtain ⟨hhere, halive⟩ := span_finished hp hts
    refine ⟨fun others hothers => ?_, halive⟩
    rw [heq, Option.or_eq_some_iff] at hothers
    exact hothers.elim (hhere others) fun h => hfound others h.2
  | none =>
    have hbegin : AllWithin [⟨p.start, Array.replicate (2 * p.groups) none⟩] start s.position :=
      List.forall_mem_singleton.mpr (within_begin hp start s.position)
    have hall := within_follow (s.position + 1) fuel hp hstart hbegin hts
    obtain ⟨hhere, halive⟩ := span_finished hp hall
    refine ⟨fun others hothers => hhere others ?_, halive⟩
    simpa only [arrive, Option.orElse_eq_orElse, Option.orElse_eq_or, Option.or_none] using hothers

/-- The match that is found from a place on is a span of the text behind it. -/
theorem span_run (hp : p.Closes) {before : Option Char} {after : List Char} (hstart : start ≤ position)
    (hfound : ∀ slots, found = some slots → Slots.Span slots start position)
    (hts : AllWithin ts.list.toList start position) {slots : Slots}
    (h : run p fuel position before found ts after = some slots) :
    Slots.Span slots start (position + after.length) := by
  induction after generalizing position before found ts with
  | nil =>
    exact (span_arrive (s := ⟨position, before, []⟩) fuel hp hstart hfound hts).1 slots h
  | cons c rest ih =>
    have harrive := span_arrive (s := ⟨position, before, c :: rest⟩) fuel hp hstart hfound hts
    rw [run] at h
    generalize arrive p fuel ⟨position, before, c :: rest⟩ found ts = front at *
    obtain ⟨hhere, halive⟩ : (∀ slots, front.found = some slots → Slots.Span slots start position) ∧
        AllWithin front.alive start position := harrive
    simp only at h
    rw [List.length_cons]
    split at h
    · exact (hhere slots h).mono (by omega)
    · have hnone : AllWithin (Threads.list ⟨#[], front.reached⟩).toList start (position + 1) :=
        fun t ht => absurd ht List.not_mem_nil
      have hnext := within_advance (s := ⟨position + 1, some c, rest⟩) (position + 2) fuel c hp
        rfl hstart halive hnone
      have hlater : ∀ slots, front.found = some slots → Slots.Span slots start (position + 1) :=
        fun slots hslots => (hhere slots hslots).mono (Nat.le_succ position)
      have hspan := ih (Nat.le_succ_of_le hstart) hlater hnext h
      rwa [Nat.succ_add_eq_add_succ] at hspan

theorem getElem?_of_head?_spansOf {slots : Slots} {groups a b : Nat}
    (h : (spansOf slots groups).head? = some (some (a, b))) :
    slots[0]? = some (some a) ∧ slots[1]? = some (some b) := by
  cases groups with
  | zero => cases h
  | succ n =>
    rw [spansOf, List.range_succ_eq_map, List.map_cons, List.head?_cons, Option.some.injEq] at h
    split at h
    · rename_i ha hb
      cases h
      exact ⟨ha, hb⟩
    · cases h

/-- A match stands behind the place where its search starts, and within the text. -/
theorem find?_within (hp : p.Closes) {before : Option Char} {after : List Char} {m : Match}
    (h : p.find? position before after = some m) :
    position ≤ m.start ∧ m.start ≤ m.stop ∧ m.stop ≤ position + after.length := by
  unfold Program.find? at h
  simp only at h
  split at h
  · cases h
  · rename_i slots hrun
    have hnone : ∀ slots, (none : Option Slots) = some slots → Slots.Span slots position position := by
      intro slots hslots
      cases hslots
    have hspan : Slots.Span slots position (position + after.length) :=
      span_run hp (Nat.le_refl _) hnone (fun t ht => absurd ht List.not_mem_nil) hrun
    split at h
    · rename_i a b hhead
      cases h
      obtain ⟨ha, hb⟩ := getElem?_of_head?_spansOf hhead
      exact hspan a b ha hb
    · cases h

end Search

/-! ## All matches -/

/-- Matches one after the other, from a place on and up to another one. They may be empty. -/
def Successive : Nat → List Match → Nat → Prop
  | start, [], stop => start ≤ stop
  | start, m :: rest, stop => start ≤ m.start ∧ m.start ≤ m.stop ∧ Successive m.stop rest stop

theorem Successive.mono {start earlier stop : Nat} {ms : List Match} (h : Successive start ms stop)
    (hle : earlier ≤ start) : Successive earlier ms stop := by
  cases ms with
  | nil => exact Nat.le_trans hle h
  | cons m rest => exact ⟨Nat.le_trans hle h.1, h.2⟩

theorem successive_matchesFrom {p : Program} (hp : p.Closes) (fuel position : Nat)
    (before : Option Char) (after : List Char) (last : Option Nat) :
    Successive position (matchesFrom p fuel position before after last) (position + after.length) := by
  induction fuel generalizing position before after last with
  | zero =>
    rw [matchesFrom.eq_def]
    exact Nat.le_add_right _ _
  | succ fuel ih =>
    have hgoOn : ∀ m : Match, position ≤ m.start → m.start ≤ m.stop →
        m.stop ≤ position + after.length →
          Successive position (m :: matchesFrom.goOn p fuel m position before after)
            (position + after.length) := by
      intro m hstart hle hstop
      refine ⟨hstart, hle, ?_⟩
      rw [matchesFrom.goOn]
      have hlater := ih m.stop (beforeDrop before after (m.stop - position))
        (after.drop (m.stop - position)) (some m.stop)
      have hend : m.stop + (after.drop (m.stop - position)).length = position + after.length := by
        rw [List.length_drop]
        omega
      rwa [hend] at hlater
    rw [matchesFrom.eq_def]
    simp only
    split
    · exact Nat.le_add_right _ _
    · rename_i m hfound
      obtain ⟨hstart, hle, hstop⟩ := find?_within hp hfound
      split
      -- an empty match where the last one stopped is left for the next one further on
      · split
        · exact Nat.le_add_right _ _
        · rename_i c rest
          split
          · exact Nat.le_add_right _ _
          · rename_i m hfound
            obtain ⟨hstart, hle, hstop⟩ := find?_within hp hfound
            rw [List.length_cons] at hgoOn ⊢
            exact hgoOn m (by omega) hle (by omega)
      · exact hgoOn m hstart hle hstop

/-- The matches of a text stand one after the other. -/
theorem successive_matches {p : Program} (hp : p.Closes) (text : List Char) :
    Successive 0 (p.matches text) text.length := by
  have h := successive_matchesFrom hp (text.length + 2) 0 none text none
  rwa [Nat.zero_add] at h

end Paperwork.Pattern
