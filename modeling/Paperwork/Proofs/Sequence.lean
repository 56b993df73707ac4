import Mathlib.Data.List.Forall2
import Mathlib.Data.List.Induction
import Mathlib.Data.List.Nodup

/-!
# Items and the items before them

Declarations are read in turn, each one in view of those before it. `EachAfter P items` says that
every item is in relation `P` to the list of the items before it.
-/

namespace Paperwork

variable {α β : Type}

/-- Each item is in a relation to the items before it. -/
def EachAfter (P : List α → α → Prop) (items : List α) : Prop :=
  ∀ before item after, items = before ++ item :: after → P before item

@[simp] theorem eachAfter_nil (P : List α → α → Prop) : EachAfter P [] := by
  intro before item after h
  simp at h

theorem eachAfter_cons {P : List α → α → Prop} {x : α} {items : List α} :
    EachAfter P (x :: items) ↔ P [] x ∧ EachAfter (fun before => P (x :: before)) items := by
  constructor
  · intro h
    refine ⟨h [] x items rfl, fun before item after heq => ?_⟩
    exact h (x :: before) item after (by rw [heq, List.cons_append])
  · rintro ⟨hx, hrest⟩ before item after heq
    cases before with
    | nil =>
      obtain ⟨rfl, -⟩ := List.cons.inj heq
      exact hx
    | cons y before =>
      obtain ⟨rfl, htail⟩ := List.cons.inj heq
      exact hrest before item after htail

theorem EachAfter.imp {P Q : List α → α → Prop} {items : List α}
    (h : ∀ before item, P before item → Q before item) (hP : EachAfter P items) :
    EachAfter Q items :=
  fun before item after heq => h before item (hP before item after heq)

theorem eachAfter_concat {P : List α → α → Prop} {items : List α} {x : α} :
    EachAfter P (items ++ [x]) ↔ EachAfter P items ∧ P items x := by
  constructor
  · intro h
    refine ⟨fun before item after heq => ?_, h items x [] rfl⟩
    exact h before item (after ++ [x]) (by rw [heq, List.append_assoc, List.cons_append])
  · rintro ⟨hitems, hx⟩ before item after heq
    rcases List.eq_nil_or_concat after with rfl | ⟨after, y, rfl⟩
    · obtain ⟨rfl, hlast⟩ := List.append_inj' heq rfl
      obtain ⟨rfl, -⟩ := List.cons.inj hlast
      exact hx
    · rw [List.concat_eq_append, ← List.cons_append, ← List.append_assoc] at heq
      exact hitems before item after (List.append_inj' heq rfl).1

theorem EachAfter.of_append {P : List α → α → Prop} {items rest : List α}
    (h : EachAfter P (items ++ rest)) : EachAfter P items := by
  intro before item after heq
  exact h before item (after ++ rest) (by rw [heq, List.append_assoc, List.cons_append])

/-- Each item is in a relation to those before it, or one of them is the first that is not. -/
theorem eachAfter_or_exists_first (P : List α → α → Prop) (items : List α) :
    EachAfter P items ∨ ∃ before item after, items = before ++ item :: after ∧
      EachAfter P before ∧ ¬ P before item := by
  induction items using List.reverseRecOn with
  | nil => exact .inl (eachAfter_nil P)
  | append_singleton items x ih =>
    rcases ih with hitems | ⟨before, item, after, rfl, hbefore, hitem⟩
    · by_cases hx : P items x
      · exact .inl (eachAfter_concat.mpr ⟨hitems, hx⟩)
      · exact .inr ⟨items, x, [], rfl, hitems, hx⟩
    · exact .inr ⟨before, item, after ++ [x], by simp, hbefore, hitem⟩

/--
Partners in view of the partners before them can be chosen one by one, when what counts of the
items before is the same on both sides.
-/
theorem exists_forall₂_eachAfter_iff {γ : Type} {R : α → β → Prop} {P : List γ → β → Prop}
    {f : α → γ} {g : β → γ} (hfg : ∀ a b, R a b → g b = f a) {as : List α} :
    (∃ bs, List.Forall₂ R as bs ∧ EachAfter (fun before b => P (before.map g) b) bs) ↔
      EachAfter (fun before a => ∃ b, R a b ∧ P (before.map f) b) as := by
  induction as generalizing P with
  | nil =>
    refine ⟨fun _ => eachAfter_nil _, fun _ => ⟨[], List.Forall₂.nil, eachAfter_nil _⟩⟩
  | cons a as ih =>
    rw [eachAfter_cons]
    constructor
    · rintro ⟨_, hR, hP⟩
      obtain ⟨b, bs, hab, hbs, rfl⟩ := List.forall₂_cons_left_iff.mp hR
      rw [eachAfter_cons] at hP
      refine ⟨⟨b, hab, hP.1⟩, (ih (P := fun before => P (f a :: before))).mp ⟨bs, hbs, ?_⟩⟩
      rw [← hfg a b hab]
      exact hP.2
    · rintro ⟨⟨b, hab, hb⟩, hrest⟩
      obtain ⟨bs, hbs, hP⟩ := (ih (P := fun before => P (f a :: before))).mpr hrest
      refine ⟨b :: bs, List.Forall₂.cons hab hbs, eachAfter_cons.mpr ⟨hb, ?_⟩⟩
      rw [← hfg a b hab] at hP
      exact hP

/-- Partners stand after partners, so a relation to the items before carries over. -/
theorem eachAfter_iff_of_forall₂ {γ : Type} {R : α → β → Prop} {P : List γ → α → Prop}
    {Q : List γ → β → Prop} {f : α → γ} {g : β → γ} (hfg : ∀ a b, R a b → g b = f a)
    (hPQ : ∀ names a b, R a b → (P names a ↔ Q names b)) {as : List α} {bs : List β}
    (h : List.Forall₂ R as bs) :
    EachAfter (fun before a => P (before.map f) a) as ↔
      EachAfter (fun before b => Q (before.map g) b) bs := by
  induction h generalizing P Q with
  | nil => simp
  | @cons a b as bs hab _ ih =>
    rw [eachAfter_cons, eachAfter_cons]
    refine and_congr (hPQ [] a b hab) ?_
    simp only [List.map_cons, hfg a b hab]
    exact ih fun names => hPQ (f a :: names)

theorem exists_forall₂_iff {R : α → β → Prop} {as : List α} :
    (∃ bs, List.Forall₂ R as bs) ↔ ∀ a ∈ as, ∃ b, R a b := by
  induction as with
  | nil => simp
  | cons a as ih =>
    rw [List.forall_mem_cons, ← ih]
    constructor
    · rintro ⟨_, h⟩
      obtain ⟨b, bs, hab, hbs, -⟩ := List.forall₂_cons_left_iff.mp h
      exact ⟨⟨b, hab⟩, bs, hbs⟩
    · rintro ⟨⟨b, hab⟩, bs, hbs⟩
      exact ⟨b :: bs, List.Forall₂.cons hab hbs⟩

/-- Partners of two lists in turn are partners of the one and then partners of the other. -/
theorem forall₂_append_left_iff {R : α → β → Prop} {as as' : List α} {bs : List β} :
    List.Forall₂ R (as ++ as') bs ↔
      ∃ xs ys, List.Forall₂ R as xs ∧ List.Forall₂ R as' ys ∧ bs = xs ++ ys := by
  induction as generalizing bs with
  | nil => simp
  | cons a as ih =>
    rw [List.cons_append, List.forall₂_cons_left_iff]
    constructor
    · rintro ⟨b, rest, hab, hrest, rfl⟩
      obtain ⟨xs, ys, hxs, hys, rfl⟩ := ih.mp hrest
      exact ⟨b :: xs, ys, List.Forall₂.cons hab hxs, hys, rfl⟩
    · rintro ⟨_, ys, h, hys, rfl⟩
      obtain ⟨b, xs, hab, hxs, rfl⟩ := List.forall₂_cons_left_iff.mp h
      exact ⟨b, xs ++ ys, hab, ih.mpr ⟨xs, ys, hxs, hys, rfl⟩, rfl⟩

/-- Everyone on the right has a partner. -/
theorem exists_left_of_forall₂ {R : α → β → Prop} {as : List α} {bs : List β}
    (h : List.Forall₂ R as bs) {b : β} (hb : b ∈ bs) : ∃ a ∈ as, R a b := by
  induction h with
  | nil => cases hb
  | @cons a b' as bs hab _ ih =>
    rcases List.mem_cons.mp hb with rfl | hb
    · exact ⟨a, List.mem_cons_self, hab⟩
    · obtain ⟨a', ha', hab'⟩ := ih hb
      exact ⟨a', List.mem_cons_of_mem _ ha', hab'⟩

/-- Partners that agree in some respect give the same list of it. -/
theorem map_eq_of_forall₂ {γ : Type} {R : α → β → Prop} {f : α → γ} {g : β → γ}
    (hfg : ∀ a b, R a b → g b = f a) {as : List α} {bs : List β} (h : List.Forall₂ R as bs) :
    bs.map g = as.map f := by
  induction h with
  | nil => rfl
  | cons hab _ ih => rw [List.map_cons, List.map_cons, hfg _ _ hab, ih]

/-! ## New names -/

/-- Names that differ from each other and from those that are taken. -/
def AreNew (taken names : List String) : Prop := names.Nodup ∧ ∀ n ∈ names, n ∉ taken

@[simp] theorem areNew_nil (taken : List String) : AreNew taken [] :=
  ⟨List.nodup_nil, fun _ h => absurd h List.not_mem_nil⟩

theorem areNew_cons {taken names : List String} {n : String} :
    AreNew taken (n :: names) ↔ n ∉ taken ∧ AreNew (taken ++ [n]) names := by
  unfold AreNew
  rw [List.nodup_cons, List.forall_mem_cons]
  simp only [List.mem_append, List.mem_singleton, not_or]
  constructor
  · rintro ⟨⟨hn, hnodup⟩, hfree, hnames⟩
    exact ⟨hfree, hnodup, fun m hm => ⟨hnames m hm, fun heq => hn (heq ▸ hm)⟩⟩
  · rintro ⟨hfree, hnodup, hnames⟩
    exact ⟨⟨fun hn => (hnames n hn).2 rfl, hnodup⟩, hfree, fun m hm => (hnames m hm).1⟩

theorem AreNew.of_append {taken names rest : List String} (h : AreNew taken (names ++ rest)) :
    AreNew taken names :=
  ⟨(List.nodup_append'.mp h.1).1, fun n hn => h.2 n (List.mem_append_left _ hn)⟩

/-! ## Items found by name, and the last item -/

/-- Under distinct names an item is found by its name. -/
theorem find?_name_of_mem {name : α → String} {items : List α}
    (hdistinct : (items.map name).Nodup) {x : α} (hx : x ∈ items) :
    items.find? (name · == name x) = some x := by
  obtain ⟨y, hy⟩ : ∃ y, items.find? (name · == name x) = some y := by
    rw [← Option.isSome_iff_exists, List.find?_isSome]
    exact ⟨x, hx, beq_self_eq_true _⟩
  have hname : name y = name x := by simpa using List.find?_some hy
  rw [hy, List.inj_on_of_nodup_map hdistinct (List.mem_of_find?_eq_some hy) hx hname]

/-- Of the items with a property one is the last. -/
theorem exists_last {P : α → Prop} {items : List α} {x : α} (hmem : x ∈ items) (hx : P x) :
    ∃ before y after, items = before ++ y :: after ∧ P y ∧ ∀ z ∈ after, ¬ P z := by
  induction items using List.reverseRecOn with
  | nil => exact absurd hmem List.not_mem_nil
  | append_singleton items y ih =>
    by_cases hy : P y
    · exact ⟨items, y, [], rfl, hy, by simp⟩
    · have hne : x ≠ y := fun heq => hy (heq ▸ hx)
      have hearlier : x ∈ items := by simpa [hne] using hmem
      obtain ⟨before, z, after, rfl, hz, hafter⟩ := ih hearlier
      exact ⟨before, z, after ++ [y], by simp, hz, by simpa [or_imp, forall_and] using ⟨hafter, hy⟩⟩

end Paperwork
