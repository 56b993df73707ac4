import Paperwork.Definition.Decode
import Paperwork.Proofs.Json.Trees

/-!
# Parts of trees

The slots of a record and the items of a list are parts of the tree that they are read from
(`isPart_of_slots?`, `exists_isPart_of_list?`), so they have whatever all parts of it have: in a
sound tree they are sound with a level less, and in a typed tree they are typed.
-/

namespace Paperwork.Tree

variable {reading : Reading} {t part : Tree} {levels : Nat}

/-- One tree is an item of another one, or the value under one of its keys. -/
inductive IsPart (part : Tree) : Tree → Prop
  | item {items : List Tree} (h : part ∈ items) : IsPart part (sequence items)
  | value {entries : List (Tree × Tree)} {key : Tree} (h : (key, part) ∈ entries) :
      IsPart part (mapping entries)
  | inside {t : Tree} (h : IsPart part t) : IsPart part (tagged t)

/-- What fills slots is the value of an entry. -/
theorem exists_mem_of_fillSlots {fields : List FieldNames} {entries : List (Tree × Tree)}
    {slots filled : List (Option Tree)} (h : fillSlots reading fields entries slots = .ok filled)
    (hpart : some part ∈ filled) : some part ∈ slots ∨ ∃ key, (key, part) ∈ entries := by
  induction entries generalizing slots with
  | nil =>
    cases h
    exact .inl hpart
  | cons e rest ih =>
    obtain ⟨key, value⟩ := e
    have hlater : (∃ k, (k, part) ∈ rest) → ∃ k, (k, part) ∈ (key, value) :: rest :=
      fun ⟨k, hk⟩ => ⟨k, List.mem_cons_of_mem _ hk⟩
    rw [fillSlots, bind_eq_ok_iff] at h
    obtain ⟨position, -, h⟩ := h
    cases position with
    | none => exact (ih h).imp_right hlater
    | some i =>
      dsimp only at h
      split at h
      · cases h
      · rcases ih h with hset | hrest
        · rcases List.mem_or_eq_of_mem_set hset with hmem | heq
          · exact .inl hmem
          · cases heq
            exact .inr ⟨key, List.mem_cons_self⟩
        · exact .inr (hlater hrest)

theorem isPart_of_slots? {fields : List FieldNames} {slots : List (Option Tree)}
    (h : t.slots? reading fields = .ok slots) {i : Nat} (hpart : slot slots i = some part) :
    IsPart part t := by
  have hmem : some part ∈ slots := List.mem_of_getElem? (Option.join_eq_some_iff.mp hpart)
  fun_induction slots? reading fields t with
  | case1 entries =>
    obtain hnone | ⟨key, hkey⟩ := exists_mem_of_fillSlots h hmem
    · simp at hnone
    · exact .value hkey
  | case4 items =>
    cases h
    simp only [List.mem_append, List.mem_map, Option.some.injEq, exists_eq_right,
      List.mem_replicate, reduceCtorEq, and_false, or_false] at hmem
    exact .item hmem
  | case5 t hspelled ih => exact .inside (ih h)
  | _ => cases h

theorem exists_mem_of_readItems {α : Type} {read : Tree → Except DecodeError α} {items : List Tree}
    {xs : List α} (h : readItems read items = .ok xs) : ∀ x ∈ xs, ∃ t ∈ items, read t = .ok x := by
  induction items generalizing xs with
  | nil =>
    cases h
    simp
  | cons t rest ih =>
    simp only [readItems, bind_eq_ok_iff, pure_eq_ok_iff] at h
    obtain ⟨x, hx, ys, hys, rfl⟩ := h
    refine List.forall_mem_cons.mpr ⟨⟨t, List.mem_cons_self, hx⟩, fun y hy => ?_⟩
    obtain ⟨u, hu, hy⟩ := ih hys y hy
    exact ⟨u, List.mem_cons_of_mem t hu, hy⟩

theorem isPart_of_items? {items : List Tree} (h : t.items? reading = .ok items)
    (hpart : part ∈ items) : IsPart part t := by
  fun_induction items? reading t with
  | case1 all =>
    cases h
    exact .item hpart
  | case2 =>
    cases h
    cases hpart
  | case4 t hspelled ih => exact .inside (ih h)
  | _ => cases h

theorem exists_isPart_of_list? {α : Type} {read : Tree → Except DecodeError α} {xs : List α}
    (h : list? reading read t = .ok xs) : ∀ x ∈ xs, ∃ part, IsPart part t ∧ read part = .ok x := by
  rw [list?, bind_eq_ok_iff] at h
  obtain ⟨items, hitems, hread⟩ := h
  intro x hx
  obtain ⟨part, hpart, hx⟩ := exists_mem_of_readItems hread x hx
  exact ⟨part, isPart_of_items? hitems hpart, hx⟩

theorem exists_of_given {α : Type} {name : String} {read : Tree → Except DecodeError α}
    {value : Option Tree} {a : α} (h : given name read value = .ok a) :
    ∃ t, value = some t ∧ read t = .ok a := by
  cases value with
  | none => cases h
  | some t => exact ⟨t, rfl, h⟩

theorem exists_of_givenOrNone {α : Type} {read : Tree → Except DecodeError α} {value : Option Tree}
    {a : α} (h : givenOrNone reading read value = .ok (some a)) :
    ∃ t, value = some t ∧ t.isAbsent reading = false ∧ read t = .ok a := by
  cases value with
  | none => cases h
  | some t =>
    rw [givenOrNone] at h
    split at h
    · cases h
    · rename_i hgiven
      obtain ⟨b, hb, heq⟩ := map_eq_ok_iff.mp h
      cases heq
      exact ⟨t, rfl, Bool.eq_false_iff.mpr hgiven, hb⟩

/-- Each item of a list that may be left out was read from a part of a slot. -/
theorem exists_of_givenOr_list? {α : Type} {read : Tree → Except DecodeError α}
    {value : Option Tree} {xs : List α} (h : givenOr [] (list? reading read) value = .ok xs) :
    ∀ x ∈ xs, ∃ t, value = some t ∧ ∃ part, IsPart part t ∧ read part = .ok x := by
  cases value with
  | none =>
    cases h
    simp
  | some t => exact fun x hx => ⟨t, rfl, exists_isPart_of_list? h x hx⟩

/-! ## Soundness -/

theorem sound_of_mem_items {items : List Tree} (h : soundItems levels items) :
    ∀ t ∈ items, t.sound levels := by
  induction items with
  | nil => simp
  | cons t rest ih =>
    rw [soundItems, Bool.and_eq_true] at h
    exact List.forall_mem_cons.mpr ⟨h.1, ih h.2⟩

theorem sound_of_mem_entries {entries : List (Tree × Tree)} (h : soundEntries levels entries) :
    ∀ e ∈ entries, e.2.sound levels := by
  induction entries with
  | nil => simp
  | cons e rest ih =>
    rw [soundEntries, Bool.and_eq_true, Bool.and_eq_true] at h
    exact List.forall_mem_cons.mpr ⟨h.1.2, ih h.2⟩

theorem sound_part (ht : t.sound (levels + 1)) (h : IsPart part t) : part.sound levels := by
  cases h with
  | item h => exact sound_of_mem_items ht part h
  | value h => exact sound_of_mem_entries ht _ h
  | inside => cases ht

theorem requireSound_eq_ok_iff {u : Unit} : t.requireSound levels = .ok u ↔ t.sound levels := by
  unfold requireSound
  split <;> simp [*]

theorem exists_eq_succ_of_slots? {fields : List FieldNames} {slots : List (Option Tree)}
    (ht : t.sound levels) (h : t.slots? reading fields = .ok slots) : ∃ n, levels = n + 1 := by
  cases levels with
  | succ n => exact ⟨n, rfl⟩
  | zero =>
    cases t with
    | leaf => cases h
    | _ => cases ht

theorem exists_eq_succ_of_list? {α : Type} {read : Tree → Except DecodeError α} {xs : List α}
    (ht : t.sound levels) (h : list? .stored read t = .ok xs) : ∃ n, levels = n + 1 := by
  cases levels with
  | succ n => exact ⟨n, rfl⟩
  | zero =>
    cases t with
    | leaf value spelling => cases spelling <;> cases h
    | _ => cases ht

/-- What is read from a sound tree nests no deeper than the tree. -/
theorem depth_le_of_sound {limit : Nat} {v : Json} (ht : t.sound levels)
    (h : json? reading limit t = .ok v) : v.depth ≤ levels := by
  induction levels generalizing t v limit with
  | zero =>
    cases t with
    | leaf value spelling => cases value <;> cases h <;> exact Nat.le_refl 0
    | _ => cases ht
  | succ levels ih =>
    cases t with
    | leaf value spelling => cases value <;> cases h <;> exact Nat.zero_le _
    | tagged collection => cases ht
    | sequence items =>
      cases limit with
      | zero => cases h
      | succ limit =>
        obtain ⟨vs, hvs, rfl⟩ := map_eq_ok_iff.mp h
        refine Json.depth_array_le fun w hw => ?_
        obtain ⟨part, hpart, hread⟩ := exists_mem_of_jsonItems? hvs w hw
        exact ih (sound_part ht (.item hpart)) hread
    | mapping entries =>
      cases limit with
      | zero => cases h
      | succ limit =>
        obtain ⟨members, hmembers, rfl⟩ := map_eq_ok_iff.mp h
        refine Json.depth_objectOf_le fun m hm => ?_
        obtain ⟨e, he, hread⟩ := exists_mem_of_jsonEntries? hmembers m hm
        exact ih (sound_part ht (.value he)) hread

/-! ## Types -/

/-- Scalars have no spelling beside their values, and no number is without bounds. -/
inductive IsTyped : Tree → Prop
  | leaf {value : Leaf} (bounded : value ≠ .unbounded) : IsTyped (leaf value none)
  | sequence {items : List Tree} : (∀ t ∈ items, IsTyped t) → IsTyped (sequence items)
  | mapping {entries : List (Tree × Tree)} :
      (∀ e ∈ entries, IsTyped e.2) → IsTyped (mapping entries)

theorem isTyped_part (ht : t.IsTyped) (h : IsPart part t) : part.IsTyped := by
  cases h with
  | item h =>
    cases ht with
    | sequence hitems => exact hitems part h
  | value h =>
    cases ht with
    | mapping hentries => exact hentries _ h
  | inside => cases ht

/-- A value that counts as given is not null. -/
theorem IsTyped.ne_null_of_json? {stored : Reading} {v : Json} (ht : t.IsTyped)
    (hgiven : t.isAbsent reading = false) (h : json? stored levels t = .ok v) : v ≠ .null := by
  rintro rfl
  cases ht with
  | @leaf value bounded =>
    cases value with
    | null => cases hgiven
    | unbounded => exact bounded rfl
    | _ => cases h
  | sequence =>
    cases levels with
    | zero => cases h
    | succ n =>
      obtain ⟨vs, -, heq⟩ := map_eq_ok_iff.mp h
      cases heq
  | mapping =>
    cases levels with
    | zero => cases h
    | succ n =>
      obtain ⟨members, -, heq⟩ := map_eq_ok_iff.mp h
      cases heq

end Paperwork.Tree
