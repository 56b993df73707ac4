import Paperwork.Proofs.Json.Nesting
import Paperwork.Proofs.Json.Objects

/-!
# Values and their trees

A free-form value is canonical, whatever tree it is read from (`canonical_of_json?`), and it is read
back from its own tree, given levels enough for its nesting (`json?_ofJson`).
-/

namespace Paperwork

theorem Json.depth_objectOf_le {members : List (String × Json)} {n : Nat}
    (h : ∀ m ∈ members, m.2.depth ≤ n) : (objectOf members).depth ≤ n + 1 := by
  rw [objectOf_eq]
  exact depth_object_le fun m hm => h m (Dict.mem_of_mem_ofList hm)

namespace Tree

variable {reading : Reading} {levels : Nat}

/-! ## From trees to values -/

theorem exists_mem_of_jsonItems? {items : List Tree} {vs : List Json}
    (h : jsonItems? reading levels items = .ok vs) :
    ∀ v ∈ vs, ∃ t ∈ items, json? reading levels t = .ok v := by
  induction items generalizing vs with
  | nil =>
    cases h
    simp
  | cons t rest ih =>
    simp only [jsonItems?, bind_eq_ok_iff, pure_eq_ok_iff] at h
    obtain ⟨v, hv, ws, hws, rfl⟩ := h
    refine List.forall_mem_cons.mpr ⟨⟨t, List.mem_cons_self, hv⟩, fun w hw => ?_⟩
    obtain ⟨u, hu, hw⟩ := ih hws w hw
    exact ⟨u, List.mem_cons_of_mem t hu, hw⟩

theorem exists_mem_of_jsonEntries? {entries : List (Tree × Tree)} {members : List (String × Json)}
    (h : jsonEntries? reading levels entries = .ok members) :
    ∀ m ∈ members, ∃ e ∈ entries, json? reading levels e.2 = .ok m.2 := by
  induction entries generalizing members with
  | nil =>
    cases h
    simp
  | cons e rest ih =>
    simp only [jsonEntries?, bind_eq_ok_iff, pure_eq_ok_iff] at h
    obtain ⟨name, -, v, hv, ms, hms, rfl⟩ := h
    refine List.forall_mem_cons.mpr ⟨⟨e, List.mem_cons_self, hv⟩, fun m hm => ?_⟩
    obtain ⟨u, hu, hm⟩ := ih hms m hm
    exact ⟨u, List.mem_cons_of_mem e hu, hm⟩

/-- The values that are read have their members in order, each name once. -/
theorem canonical_of_json? {t : Tree} {v : Json} (h : json? reading levels t = .ok v) :
    v.Canonical := by
  induction levels generalizing t v with
  | zero =>
    cases t with
    | leaf value spelling => cases value <;> cases h <;> constructor
    | _ => cases h
  | succ levels ih =>
    cases t with
    | leaf value spelling => cases value <;> cases h <;> constructor
    | sequence items =>
      obtain ⟨vs, hvs, rfl⟩ := map_eq_ok_iff.mp h
      refine .array fun w hw => ?_
      obtain ⟨t, -, ht⟩ := exists_mem_of_jsonItems? hvs w hw
      exact ih ht
    | mapping entries =>
      obtain ⟨members, hmembers, rfl⟩ := map_eq_ok_iff.mp h
      refine Json.canonical_objectOf fun m hm => ?_
      obtain ⟨e, -, he⟩ := exists_mem_of_jsonEntries? hmembers m hm
      exact ih he
    | tagged collection => cases h

/-- The values that are read nest no deeper than there are levels. -/
theorem depth_le_of_json? {t : Tree} {v : Json} (h : json? reading levels t = .ok v) :
    v.depth ≤ levels := by
  induction levels generalizing t v with
  | zero =>
    cases t with
    | leaf value spelling => cases value <;> cases h <;> exact Nat.le_refl 0
    | _ => cases h
  | succ levels ih =>
    cases t with
    | leaf value spelling => cases value <;> cases h <;> exact Nat.zero_le _
    | sequence items =>
      obtain ⟨vs, hvs, rfl⟩ := map_eq_ok_iff.mp h
      refine Json.depth_array_le fun w hw => ?_
      obtain ⟨t, -, ht⟩ := exists_mem_of_jsonItems? hvs w hw
      exact ih ht
    | mapping entries =>
      obtain ⟨members, hmembers, rfl⟩ := map_eq_ok_iff.mp h
      refine Json.depth_objectOf_le fun m hm => ?_
      obtain ⟨e, -, he⟩ := exists_mem_of_jsonEntries? hmembers m hm
      exact ih he
    | tagged collection => cases h

/-! ## From values to trees -/

theorem isAbsent_ofJson {v : Json} : (ofJson v).isAbsent reading = true ↔ v = .null := by
  cases v <;> simp [ofJson, isAbsent, text]

theorem jsonItems?_ofJsonItems {vs : List Json}
    (h : ∀ v ∈ vs, json? reading levels (ofJson v) = .ok v) :
    jsonItems? reading levels (ofJsonItems vs) = .ok vs := by
  induction vs with
  | nil => rfl
  | cons v rest ih =>
    obtain ⟨hv, hrest⟩ := List.forall_mem_cons.mp h
    rw [ofJsonItems, jsonItems?, hv, ih hrest]
    rfl

theorem jsonEntries?_ofJsonMembers {members : List (String × Json)}
    (h : ∀ m ∈ members, json? reading levels (ofJson m.2) = .ok m.2) :
    jsonEntries? reading levels (ofJsonMembers members) = .ok members := by
  induction members with
  | nil => rfl
  | cons m rest ih =>
    obtain ⟨hm, hrest⟩ := List.forall_mem_cons.mp h
    rw [ofJsonMembers, jsonEntries?, text?_text, hm, ih hrest]
    rfl

/-- A value is read back from its tree. -/
theorem json?_ofJson {v : Json} (hv : v.Canonical) (hdepth : v.depth ≤ levels) :
    json? reading levels (ofJson v) = .ok v := by
  induction levels generalizing v with
  | zero =>
    cases hv with
    | array => exact absurd hdepth (Nat.not_succ_le_zero _)
    | object => exact absurd hdepth (Nat.not_succ_le_zero _)
    | _ => rfl
  | succ levels ih =>
    cases hv with
    | array hitems =>
      rw [ofJson, json?, jsonItems?_ofJsonItems fun w hw => ?_]
      · rfl
      · have hlt := Json.depth_lt_of_mem hw
        exact ih (hitems w hw) (by omega)
    | object horder hmembers =>
      rw [ofJson, json?, jsonEntries?_ofJsonMembers fun m hm => ?_]
      · exact congrArg Except.ok (Json.objectOf_of_inOrder horder)
      · have hlt := Json.depth_lt_of_mem_members hm
        exact ih (hmembers m hm) (by omega)
    | _ => rfl

theorem soundItems_ofJsonItems {vs : List Json} (h : ∀ v ∈ vs, (ofJson v).sound levels) :
    soundItems levels (ofJsonItems vs) := by
  induction vs with
  | nil => rfl
  | cons v rest ih =>
    obtain ⟨hv, hrest⟩ := List.forall_mem_cons.mp h
    rw [ofJsonItems, soundItems, hv, ih hrest]
    rfl

theorem soundEntries_ofJsonMembers {members : List (String × Json)}
    (h : ∀ m ∈ members, (ofJson m.2).sound levels) :
    soundEntries levels (ofJsonMembers members) := by
  induction members with
  | nil => rfl
  | cons m rest ih =>
    obtain ⟨hm, hrest⟩ := List.forall_mem_cons.mp h
    rw [ofJsonMembers, soundEntries, hm, ih hrest]
    cases levels <;> rfl

/-- Every scalar in the tree of a value has a value. -/
theorem sound_ofJson {v : Json} (hdepth : v.depth ≤ levels) : (ofJson v).sound levels := by
  induction levels generalizing v with
  | zero =>
    cases v with
    | array => exact absurd hdepth (Nat.not_succ_le_zero _)
    | object => exact absurd hdepth (Nat.not_succ_le_zero _)
    | _ => rfl
  | succ levels ih =>
    cases v with
    | array vs =>
      refine soundItems_ofJsonItems fun w hw => ih ?_
      have hlt := Json.depth_lt_of_mem hw
      omega
    | object members =>
      refine soundEntries_ofJsonMembers fun m hm => ih ?_
      have hlt := Json.depth_lt_of_mem_members hm
      omega
    | _ => rfl

end Tree

end Paperwork
