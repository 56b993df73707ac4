import Mathlib.Data.List.Nodup
import Mathlib.Data.List.Perm.Basic
import Paperwork.Data.Dict

/-!
# What dictionaries hold

The entries of a dictionary are its look-ups (`Dict.mem_toList_iff`), and its keys are distinct. So
a list of distinct names that has the same members as the keys is the keys in another order, and it
counts the same (`Dict.countP_toList`). Entering its entries anew makes the same dictionary
(`Dict.ofList_toList`).
-/

namespace Paperwork

variable {α : Type} {k : String} {v : α}

theorem entryAt_eq_some_iff {entries : List (String × α)} (h : InKeyOrder entries) :
    entryAt k entries = some v ↔ (k, v) ∈ entries := by
  induction entries with
  | nil => simp [entryAt]
  | cons e rest ih =>
    obtain ⟨he, hrest⟩ := List.pairwise_cons.mp h
    rw [entryAt, List.mem_cons, ← ih hrest]
    by_cases hk : k = e.1
    · subst hk
      have hnone : entryAt e.1 rest = none := entryAt_eq_none he
      rw [if_pos rfl, hnone, Option.some.injEq, Prod.ext_iff]
      constructor
      · rintro rfl
        exact .inl ⟨rfl, rfl⟩
      · rintro (⟨-, h⟩ | h)
        · exact h.symm
        · cases h
    · have hne : (k, v) ≠ e := fun heq => hk (congrArg Prod.fst heq)
      rw [if_neg hk]
      exact (or_iff_right hne).symm

theorem entryAt_eq_none_of_not_mem {entries : List (String × α)} (h : k ∉ entries.map (·.1)) :
    entryAt k entries = none := by
  induction entries with
  | nil => rfl
  | cons e rest ih =>
    rw [List.map_cons, List.mem_cons, not_or] at h
    rw [entryAt, if_neg h.1, ih h.2]

/-- A name behind all others is entered at the end. -/
theorem putEntry_eq_append {entries : List (String × α)} (h : ∀ e ∈ entries, e.1 < k) :
    putEntry k v entries = entries ++ [(k, v)] := by
  induction entries with
  | nil => rfl
  | cons e rest ih =>
    obtain ⟨he, hrest⟩ := List.forall_mem_cons.mp h
    have hne : k ≠ e.1 := fun heq => String.lt_irrefl _ (heq ▸ he)
    rw [putEntry, if_neg (String.lt_asymm he), if_neg hne, ih hrest, List.cons_append]

/-- Values under the distinct names of items are found under these names. -/
theorem entryAt_filterMap {β : Type} {name : β → String} (value : β → Option α) {items : List β}
    (h : (items.map name).Nodup) :
    (∀ x ∈ items, entryAt (name x) (items.filterMap fun x => (value x).map (name x, ·)) = value x) ∧
      ∀ n ∉ items.map name,
        entryAt n (items.filterMap fun x => (value x).map (name x, ·)) = none := by
  induction items with
  | nil => simp [entryAt]
  | cons y rest ih =>
    rw [List.map_cons, List.nodup_cons] at h
    obtain ⟨hfound, hnone⟩ := ih h.2
    have hcons : ∀ n, entryAt n ((y :: rest).filterMap fun x => (value x).map (name x, ·)) =
        if n = name y then value y
        else entryAt n (rest.filterMap fun x => (value x).map (name x, ·)) := by
      intro n
      rw [List.filterMap_cons]
      cases value y with
      | some v => rfl
      | none =>
        by_cases hn : n = name y
        · rw [if_pos hn]
          exact hnone n (hn ▸ h.1)
        · rw [if_neg hn]
          rfl
    refine ⟨List.forall_mem_cons.mpr ⟨?_, fun x hx => ?_⟩, fun n hn => ?_⟩
    · rw [hcons, if_pos rfl]
    · have hne : name x ≠ name y := fun heq => h.1 (heq ▸ List.mem_map_of_mem hx)
      rw [hcons, if_neg hne, hfound x hx]
    · rw [List.map_cons, List.mem_cons, not_or] at hn
      rw [hcons, if_neg hn.1, hnone n hn.2]

theorem nodup_map_filterMap {β : Type} {name : β → String} {value : β → Option α}
    {items : List β} (h : (items.map name).Nodup) :
    ((items.filterMap fun x => (value x).map (name x, ·)).map (·.1)).Nodup := by
  refine h.sublist ?_
  induction items with
  | nil => exact .slnil
  | cons y rest ih =>
    rw [List.map_cons, List.nodup_cons] at h
    rw [List.filterMap_cons]
    cases value y with
    | some v => exact (ih h.2).cons_cons _
    | none => exact (ih h.2).cons _

namespace Dict

variable {d : Dict α}

theorem mem_toList_iff : (k, v) ∈ d.toList ↔ d.get? k = some v :=
  (entryAt_eq_some_iff d.inOrder).symm

theorem mem_keys_iff : k ∈ d.keys ↔ (d.get? k).isSome := by
  rw [keys, List.mem_map, Option.isSome_iff_exists]
  constructor
  · rintro ⟨⟨n, v⟩, hmem, rfl⟩
    exact ⟨v, mem_toList_iff.mp hmem⟩
  · rintro ⟨v, hv⟩
    exact ⟨(k, v), mem_toList_iff.mpr hv, rfl⟩

theorem nodup_keys (d : Dict α) : d.keys.Nodup := by
  rw [keys, List.Nodup, List.pairwise_map]
  refine d.inOrder.imp fun {a b} hlt heq => ?_
  rw [heq] at hlt
  exact String.lt_irrefl _ hlt

/-- Distinct names that are the keys of a dictionary are its keys in some order. -/
theorem keys_perm {names : List String} (hnodup : names.Nodup)
    (hkeys : ∀ n, n ∈ d.keys ↔ n ∈ names) : d.keys.Perm names :=
  (List.perm_ext_iff_of_nodup d.nodup_keys hnodup).mpr hkeys

/-- Entries are counted under the names of the keys, in whatever order these are listed. -/
theorem countP_toList {names : List String} (hnodup : names.Nodup)
    (hkeys : ∀ n, n ∈ d.keys ↔ n ∈ names) (p : Option α → Bool) :
    d.toList.countP (fun e => p (some e.2)) = names.countP fun n => p (d.get? n) := by
  have hentries : d.toList.countP (fun e => p (some e.2)) =
      d.toList.countP ((fun n => p (d.get? n)) ∘ Prod.fst) := by
    refine List.countP_congr fun e he => ?_
    have hget : d.get? e.1 = some e.2 := mem_toList_iff.mp he
    rw [Function.comp_apply, hget]
  rw [hentries, ← List.countP_map]
  exact (keys_perm hnodup hkeys).countP_eq _

theorem entries_foldl_insert {rest : List (String × α)} (h : InKeyOrder (d.entries ++ rest)) :
    (rest.foldl (fun d e => d.insert e.1 e.2) d).entries = d.entries ++ rest := by
  induction rest generalizing d with
  | nil => exact (List.append_nil _).symm
  | cons e rest ih =>
    have hbehind : ∀ x ∈ d.entries, x.1 < e.1 := fun x hx =>
      (List.pairwise_append.mp h).2.2 x hx e List.mem_cons_self
    have hentries : (d.insert e.1 e.2).entries = d.entries ++ [e] := putEntry_eq_append hbehind
    have horder : InKeyOrder ((d.insert e.1 e.2).entries ++ rest) := by
      rw [hentries, List.append_assoc]
      exact h
    rw [List.foldl_cons, ih horder, hentries, List.append_assoc]
    rfl

/-- Of entries with distinct names, each one stands after they are entered in turn. -/
theorem get?_foldl_insert {entries : List (String × α)} (h : (entries.map (·.1)).Nodup)
    (d : Dict α) (k : String) :
    (entries.foldl (fun d e => d.insert e.1 e.2) d).get? k = (entryAt k entries).or (d.get? k) := by
  induction entries generalizing d with
  | nil => rfl
  | cons e rest ih =>
    rw [List.map_cons, List.nodup_cons] at h
    rw [List.foldl_cons, ih h.2, get?_insert, entryAt]
    by_cases hk : k = e.1
    · have hrest : entryAt k rest = none :=
        entryAt_eq_none_of_not_mem (hk ▸ h.1)
      rw [if_pos hk, if_pos hk, hrest, Option.none_or, Option.some_or]
    · rw [if_neg hk, if_neg hk]

/-- Whatever the names are, the entries of a second list stand before those of a first one. -/
theorem get?_ofList_append (entries later : List (String × α)) (k : String) :
    (ofList (entries ++ later)).get? k = ((ofList later).get? k).or ((ofList entries).get? k) := by
  have hfoldl : ∀ d : Dict α, (later.foldl (fun d e => d.insert e.1 e.2) d).get? k =
      ((ofList later).get? k).or (d.get? k) := by
    induction later with
    | nil => exact fun d => rfl
    | cons e rest ih =>
      intro d
      have hcons : (ofList (e :: rest)).get? k =
          ((ofList rest).get? k).or ((empty.insert e.1 e.2).get? k) := ih _
      rw [List.foldl_cons, ih, hcons, Option.or_assoc]
      by_cases hk : k = e.1 <;> simp [hk]
  rw [ofList, List.foldl_append]
  exact hfoldl _

theorem get?_ofList_singleton (n : String) (v : α) (k : String) :
    (ofList [(n, v)]).get? k = if k = n then some v else none := get?_insert _ _ _ _

theorem mem_of_mem_ofList {entries : List (String × α)} {e : String × α}
    (h : e ∈ (ofList entries).toList) : e ∈ entries := by
  have hfoldl : ∀ d : Dict α, e ∈ (entries.foldl (fun d e => d.insert e.1 e.2) d).toList →
      e ∈ d.toList ∨ e ∈ entries := by
    clear h
    induction entries with
    | nil => exact fun d h => .inl h
    | cons x rest ih =>
      intro d h
      rw [List.mem_cons]
      rcases ih _ h with hinsert | hrest
      · exact (mem_putEntry hinsert).elim (fun heq => .inr (.inl heq)) .inl
      · exact .inr (.inr hrest)
  exact (hfoldl empty h).resolve_left (List.not_mem_nil)

theorem get?_ofList {entries : List (String × α)} (h : (entries.map (·.1)).Nodup) (k : String) :
    (ofList entries).get? k = entryAt k entries := by
  rw [ofList, get?_foldl_insert h, get?_empty, Option.or_none]

/-- Entering the entries of a dictionary in turn makes this dictionary. -/
theorem ofList_toList (d : Dict α) : ofList d.toList = d := by
  have hentries : (d.toList.foldl (fun d e => d.insert e.1 e.2) empty).entries =
      empty.entries ++ d.toList := entries_foldl_insert d.inOrder
  refine ext_get? fun k => ?_
  rw [get?, ofList, hentries]
  rfl

end Dict

end Paperwork
