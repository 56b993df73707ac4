/-!
# Dictionaries in key order

A dictionary holds at most one value per name and lists its names in order. The order is part of
the type, so two dictionaries that answer every look-up alike are equal (`Dict.ext_get?`).
-/

namespace Paperwork

variable {α : Type}

/-! ## Ordered entry lists -/

/-- Puts a value under a name, replacing the value that stands there. -/
def putEntry (k : String) (v : α) : List (String × α) → List (String × α)
  | [] => [(k, v)]
  | e :: rest =>
    if k < e.1 then (k, v) :: e :: rest
    else if k = e.1 then (k, v) :: rest
    else e :: putEntry k v rest

/-- The value under a name. -/
def entryAt (k : String) : List (String × α) → Option α
  | [] => none
  | e :: rest => if k = e.1 then some e.2 else entryAt k rest

/-- Names strictly increase. -/
def InKeyOrder (entries : List (String × α)) : Prop :=
  entries.Pairwise (fun a b => a.1 < b.1)

theorem mem_putEntry {k : String} {v : α} {entries : List (String × α)} {e : String × α}
    (h : e ∈ putEntry k v entries) : e = (k, v) ∨ e ∈ entries := by
  induction entries with
  | nil => simpa [putEntry] using h
  | cons d rest ih =>
    unfold putEntry at h
    split at h
    · simpa using h
    · split at h
      · rcases List.mem_cons.1 h with h | h
        · exact .inl h
        · exact .inr (List.mem_cons_of_mem _ h)
      · rcases List.mem_cons.1 h with h | h
        · exact .inr (h ▸ List.mem_cons_self)
        · exact (ih h).imp_right (List.mem_cons_of_mem _)

theorem lt_of_not_lt_of_ne {a b : String} (h : ¬ a < b) (hne : a ≠ b) : b < a := by
  rcases Decidable.em (b < a) with hba | hba
  · exact hba
  · exact absurd (String.le_antisymm (String.not_lt.1 hba) (String.not_lt.1 h)) hne

theorem inKeyOrder_putEntry {k : String} {v : α} {entries : List (String × α)}
    (h : InKeyOrder entries) : InKeyOrder (putEntry k v entries) := by
  induction entries with
  | nil => simp [putEntry, InKeyOrder]
  | cons d rest ih =>
    have hd : ∀ e ∈ rest, d.1 < e.1 := (List.pairwise_cons.1 h).1
    have hrest : InKeyOrder rest := (List.pairwise_cons.1 h).2
    unfold putEntry
    split
    · rename_i hlt
      refine List.pairwise_cons.2 ⟨fun e he => ?_, h⟩
      rcases List.mem_cons.1 he with he | he
      · exact he ▸ hlt
      · exact String.lt_trans hlt (hd e he)
    · rename_i hlt
      split
      · rename_i heq
        exact List.pairwise_cons.2 ⟨fun e he => heq ▸ hd e he, hrest⟩
      · rename_i hne
        refine List.pairwise_cons.2 ⟨fun e he => ?_, ih hrest⟩
        rcases mem_putEntry he with he | he
        · exact he ▸ lt_of_not_lt_of_ne hlt hne
        · exact hd e he

theorem entryAt_putEntry (k j : String) (v : α) (entries : List (String × α)) :
    entryAt j (putEntry k v entries) = if j = k then some v else entryAt j entries := by
  induction entries with
  | nil => simp [putEntry, entryAt]
  | cons d rest ih =>
    unfold putEntry
    split
    · simp [entryAt]
    · split
      · rename_i heq
        by_cases hj : j = k <;> simp [entryAt, hj, ← heq]
      · rename_i hne
        by_cases hj : j = d.1
        · simp [entryAt, hj, Ne.symm hne]
        · simp [entryAt, hj, ih]

theorem entryAt_eq_none {k : String} {entries : List (String × α)}
    (h : ∀ e ∈ entries, k < e.1) : entryAt k entries = none := by
  induction entries with
  | nil => rfl
  | cons d rest ih =>
    have hk : k ≠ d.1 := fun heq => String.lt_irrefl _ (heq ▸ h d List.mem_cons_self)
    simpa [entryAt, hk] using ih fun e he => h e (List.mem_cons_of_mem _ he)

theorem eq_of_entryAt_eq {a b : List (String × α)} (ha : InKeyOrder a) (hb : InKeyOrder b)
    (h : ∀ k, entryAt k a = entryAt k b) : a = b := by
  induction a generalizing b with
  | nil =>
    cases b with
    | nil => rfl
    | cons e rest => simpa [entryAt] using h e.1
  | cons d rest ih =>
    cases b with
    | nil => simpa [entryAt] using h d.1
    | cons e tail =>
      obtain ⟨hd, hrest⟩ := List.pairwise_cons.1 ha
      obtain ⟨he, htail⟩ := List.pairwise_cons.1 hb
      have hkey : d.1 = e.1 := by
        rcases Decidable.em (d.1 < e.1) with hlt | hlt
        · have hnone : entryAt d.1 (e :: tail) = none := entryAt_eq_none fun x hx => by
            rcases List.mem_cons.1 hx with hx | hx
            · exact hx ▸ hlt
            · exact String.lt_trans hlt (he x hx)
          exact absurd (hnone ▸ h d.1) (by simp [entryAt])
        · rcases Decidable.em (d.1 = e.1) with heq | hne
          · exact heq
          · have hlt' := lt_of_not_lt_of_ne hlt hne
            have hnone : entryAt e.1 (d :: rest) = none := entryAt_eq_none fun x hx => by
              rcases List.mem_cons.1 hx with hx | hx
              · exact hx ▸ hlt'
              · exact String.lt_trans hlt' (hd x hx)
            exact absurd (hnone ▸ h e.1) (by simp [entryAt])
      have hval : d.2 = e.2 := by simpa [entryAt, hkey] using h d.1
      have hrests : rest = tail := ih hrest htail fun k => by
        rcases Decidable.em (k = d.1) with hk | hk
        · subst hk
          rw [entryAt_eq_none fun x hx => hd x hx,
            entryAt_eq_none fun x hx => hkey ▸ he x hx]
        · have hk' : k ≠ e.1 := hkey ▸ hk
          simpa [entryAt, hk, hk'] using h k
      rw [hrests, Prod.ext hkey hval]

/-! ## Dictionaries -/

/-- Values under distinct names, listed in the order of the names. -/
structure Dict (α : Type) where
  entries : List (String × α)
  inOrder : InKeyOrder entries

namespace Dict

/-- The dictionary without entries. -/
def empty : Dict α := ⟨[], List.Pairwise.nil⟩

instance : EmptyCollection (Dict α) := ⟨empty⟩

instance : Inhabited (Dict α) := ⟨empty⟩

/-- The value under a name. -/
def get? (d : Dict α) (k : String) : Option α := entryAt k d.entries

/-- Whether a name has a value. -/
def contains (d : Dict α) (k : String) : Bool := (d.get? k).isSome

/-- Puts a value under a name, replacing the value that stands there. -/
def insert (d : Dict α) (k : String) (v : α) : Dict α :=
  ⟨putEntry k v d.entries, inKeyOrder_putEntry d.inOrder⟩

/-- Enters the pairs in turn; the last value given for a name stands. -/
def ofList (pairs : List (String × α)) : Dict α :=
  pairs.foldl (fun d p => d.insert p.1 p.2) empty

/-- Names in order. -/
def keys (d : Dict α) : List String := d.entries.map (·.1)

/-- Entries in the order of their names. -/
def toList (d : Dict α) : List (String × α) := d.entries

@[simp] theorem get?_empty (k : String) : (empty : Dict α).get? k = none := rfl

@[simp] theorem get?_insert (d : Dict α) (k j : String) (v : α) :
    (d.insert k v).get? j = if j = k then some v else d.get? j :=
  entryAt_putEntry k j v d.entries

theorem ext_get? {a b : Dict α} (h : ∀ k, a.get? k = b.get? k) : a = b := by
  cases a with
  | mk as ha =>
    cases b with
    | mk bs hb =>
      have hab : as = bs := eq_of_entryAt_eq ha hb h
      subst hab
      rfl

instance [DecidableEq α] : DecidableEq (Dict α) := fun a b =>
  decidable_of_iff (a.entries = b.entries)
    ⟨fun h => by cases a; cases b; cases h; rfl, fun h => h ▸ rfl⟩

end Dict

end Paperwork
