import Paperwork.Definition.Decode
import Paperwork.Proofs.Json.Trees

/-!
# Records in objects

The members of an object that name no field twice fill the slots of a record, each one the slot of
the field that it names (`slots?_objectOf`). What is written in a slot is read back from it, whether
it is optional (`givenOrNone_map`) or a list (`list?_ofJson`).
-/

namespace Paperwork

theorem slot_set_self {slots : List (Option Tree)} {i : Nat} (h : i < slots.length)
    (t : Option Tree) : slot (slots.set i t) i = t := by
  simp [slot, h]

theorem slot_set_ne {slots : List (Option Tree)} {i j : Nat} (h : i ≠ j) (t : Option Tree) :
    slot (slots.set i t) j = slot slots j := by
  simp [slot, h]

theorem slot_replicate (n i : Nat) : slot (List.replicate n none) i = none := by
  simp only [slot, List.getElem?_replicate]
  split <;> rfl

namespace Tree

variable {reading : Reading} {fields : List FieldNames} {names : List String}

/-! ## Slots -/

/-- The position of the field that a name stands for. -/
def position? (fields : List FieldNames) (name : String) : Option Nat :=
  fields.findIdx? (·.contains name)

/-- No two of the names stand for the same field. -/
def NameApart (fields : List FieldNames) (names : List String) : Prop :=
  ∀ a ∈ names, ∀ b ∈ names, position? fields a = position? fields b →
    position? fields a = none ∨ a = b

instance : Decidable (NameApart fields names) :=
  inferInstanceAs (Decidable (∀ a ∈ names, ∀ b ∈ names, _ → _))

theorem fieldOfKey?_text (fields : List FieldNames) (s : String) :
    fieldOfKey? reading fields (text s) = .ok (position? fields s) := by
  unfold fieldOfKey?
  rw [text?_text]
  rfl

theorem position?_lt {name : String} {i : Nat} (h : position? fields name = some i) :
    i < fields.length :=
  (List.findIdx?_eq_some_iff_getElem.mp h).1

section Steps

variable {key : String} {value : Tree} {rest : List (Tree × Tree)} {slots : List (Option Tree)}

/-- A key that names no field is passed over. -/
theorem fillSlots_cons_of_none (h : position? fields key = none) :
    fillSlots reading fields ((text key, value) :: rest) slots =
      fillSlots reading fields rest slots := by
  rw [fillSlots, fieldOfKey?_text, h]
  rfl

/-- A value fills the slot of its field if this slot is free. -/
theorem fillSlots_cons_of_free {i : Nat} (h : position? fields key = some i)
    (hi : i < slots.length) (hfree : slot slots i = none) :
    fillSlots reading fields ((text key, value) :: rest) slots =
      fillSlots reading fields rest (slots.set i (some value)) := by
  rw [slot, List.getElem?_eq_getElem hi] at hfree
  have hnone : slots[i]? = some none := by
    rw [List.getElem?_eq_getElem hi]
    exact congrArg some hfree
  rw [fillSlots, fieldOfKey?_text, h]
  simp only [bind, Except.bind, hnone]

end Steps

/-- Each member fills the slot of the field that it names, if all of these slots are free. -/
theorem fillSlots_ofJsonMembers (reading : Reading) {members : List (String × Json)}
    {slots : List (Option Tree)} (hapart : NameApart fields names)
    (hdistinct : (members.map (·.1)).Nodup) (hnames : ∀ m ∈ members, m.1 ∈ names)
    (hlength : slots.length = fields.length)
    (hfree : ∀ m ∈ members, ∀ i, position? fields m.1 = some i → slot slots i = none) :
    ∃ filled, fillSlots reading fields (ofJsonMembers members) slots = .ok filled ∧
      ∀ name ∈ names, ∀ i, position? fields name = some i →
        slot filled i = ((Json.memberIn? members name).map ofJson).or (slot slots i) := by
  induction members generalizing slots with
  | nil => exact ⟨slots, rfl, fun name _ i _ => rfl⟩
  | cons m rest ih =>
    obtain ⟨key, v⟩ := m
    rw [List.map_cons, List.nodup_cons] at hdistinct
    obtain ⟨hkey, hnames⟩ := List.forall_mem_cons.mp hnames
    obtain ⟨hslot, hfree⟩ := List.forall_mem_cons.mp hfree
    rw [ofJsonMembers]
    cases hposition : position? fields key with
    | none =>
      obtain ⟨filled, hfilled, hlookup⟩ := ih hdistinct.2 hnames hlength hfree
      refine ⟨filled, (fillSlots_cons_of_none hposition).trans hfilled, fun name hname i hi => ?_⟩
      have hne : name ≠ key := by
        rintro rfl
        rw [hposition] at hi
        cases hi
      rw [hlookup name hname i hi, Json.memberIn?_cons, if_neg hne]
    | some i =>
      have hi : i < slots.length := hlength ▸ position?_lt hposition
      -- a member further on that names this field would have the same name
      have hother : ∀ name ∈ names, position? fields name = some i → name = key := by
        intro name hname heq
        refine (hapart name hname key hkey (heq.trans hposition.symm)).resolve_left ?_
        simp [heq]
      have hrest : ∀ m ∈ rest, ∀ j, position? fields m.1 = some j →
          slot (slots.set i (some (ofJson v))) j = none := by
        intro m hm j hj
        have hne : i ≠ j := by
          rintro rfl
          have hsame : m.1 = key := hother m.1 (hnames m hm) hj
          exact hdistinct.1 (hsame ▸ List.mem_map.mpr ⟨m, hm, rfl⟩)
        rw [slot_set_ne hne, hfree m hm j hj]
      obtain ⟨filled, hfilled, hlookup⟩ :=
        ih hdistinct.2 hnames ((List.length_set ..).trans hlength) hrest
      refine ⟨filled, (fillSlots_cons_of_free hposition hi (hslot i hposition)).trans hfilled,
        fun name hname j hj => ?_⟩
      rw [hlookup name hname j hj]
      by_cases heq : i = j
      · subst heq
        obtain rfl := hother name hname hj
        rw [Json.memberIn?_eq_none hdistinct.1, slot_set_self hi, hslot i hposition,
          Json.memberIn?_cons, if_pos rfl]
        rfl
      · have hne : name ≠ key := by
          rintro rfl
          exact heq (Option.some.inj (hposition.symm.trans hj))
        rw [Json.memberIn?_cons, if_neg hne, slot_set_ne heq]

/-- The slots of a record in an object hold the members that name its fields. -/
theorem slots?_objectOf {members : List (String × Json)} (hapart : NameApart fields names)
    (hnames : members.map (·.1) ⊆ names) :
    ∃ slots, (ofJson (Json.objectOf members)).slots? reading fields = .ok slots ∧
      ∀ name ∈ names, ∀ i, position? fields name = some i →
        slot slots i = ((Json.objectOf members).member? name).map ofJson := by
  rw [Json.objectOf_eq]
  obtain ⟨slots, hslots, hlookup⟩ :=
    fillSlots_ofJsonMembers reading hapart (Dict.ofList members).nodup_keys
      (fun m hm => hnames (List.mem_map_of_mem (Dict.mem_of_mem_ofList hm))) List.length_replicate
      fun m _ i _ => slot_replicate fields.length i
  refine ⟨slots, hslots, fun name hname i hi => ?_⟩
  rw [hlookup name hname i hi, slot_replicate, Option.or_none]
  rfl

/-! ## What slots hold -/

/-- An optional field is read as it was written. -/
theorem givenOrNone_map {α : Type} {read : Tree → Except DecodeError α} {write : α → Json}
    {value : Option α}
    (h : ∀ a, value = some a → write a ≠ .null ∧ read (ofJson (write a)) = .ok a) :
    givenOrNone reading read ((value.map write).map ofJson) = .ok value := by
  cases value with
  | none => rfl
  | some a =>
    obtain ⟨hwritten, hread⟩ := h a rfl
    have habsent : (ofJson (write a)).isAbsent reading ≠ true := mt isAbsent_ofJson.mp hwritten
    rw [Option.map_some, Option.map_some, givenOrNone, if_neg habsent, hread]
    rfl

/-- A list is read as it was written. -/
theorem list?_ofJson {α : Type} {read : Tree → Except DecodeError α} {write : α → Json}
    {items : List α} (h : ∀ a ∈ items, read (ofJson (write a)) = .ok a) :
    list? reading read (ofJson (.array (items.map write))) = .ok items := by
  show readItems read (ofJsonItems (items.map write)) = .ok items
  induction items with
  | nil => rfl
  | cons a rest ih =>
    obtain ⟨ha, hrest⟩ := List.forall_mem_cons.mp h
    rw [List.map_cons, ofJsonItems, readItems, ha, ih hrest]
    rfl

end Tree

end Paperwork
