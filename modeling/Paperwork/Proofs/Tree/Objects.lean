import Paperwork.Proofs.Outcome
import Paperwork.Proofs.Tree.Records
import Mathlib.Data.List.Forall2

/-!
# Objects as records

An object is a mapping whose keys are texts. It is a record if no field is given twice, and then each
slot of the record holds what is given for its field (`slots?_eq_ok_iff`). Unlike a JSON value, an
object that is read from a text may repeat its members.
-/

namespace Paperwork

namespace Tree

variable {fields : List FieldNames} {t : Tree} {entries : List (Tree × Tree)}
  {members : List (String × Tree)} {slots filled : List (Option Tree)}

/-! ## Members of objects -/

/-- An entry of a mapping has a text as its key. -/
def IsMember (e : Tree × Tree) (m : String × Tree) : Prop := e.1.text? .stored = .ok m.1 ∧ e.2 = m.2

/-- A tree is an object: all of its keys are texts. Its members may repeat each other. -/
def IsObject (t : Tree) (members : List (String × Tree)) : Prop :=
  ∃ entries, t = mapping entries ∧ List.Forall₂ IsMember entries members

/-- The values that are given under a name. -/
def valuesUnder (members : List (String × Tree)) (name : String) : List Tree :=
  (members.filter (·.1 == name)).map (·.2)

/-- The values that are given for a field of a record, under any of its names. -/
def valuesAt (fields : List FieldNames) (members : List (String × Tree)) (i : Nat) : List Tree :=
  (members.filter fun m => position? fields m.1 == some i).map (·.2)

theorem isObject_ofJson (members : List (String × Json)) :
    (ofJson (.object members)).IsObject (members.map fun m => (m.1, ofJson m.2)) := by
  refine ⟨ofJsonMembers members, rfl, ?_⟩
  induction members with
  | nil => exact .nil
  | cons m rest ih => exact .cons ⟨text?_text .stored m.1, rfl⟩ ih

theorem valuesAt_cons_of_eq {m : String × Tree} {i : Nat} (h : position? fields m.1 = some i) :
    valuesAt fields (m :: members) i = m.2 :: valuesAt fields members i := by
  unfold valuesAt
  rw [List.filter_cons_of_pos (by simp [h]), List.map_cons]

theorem valuesAt_cons_of_ne {m : String × Tree} {i : Nat} (h : position? fields m.1 ≠ some i) :
    valuesAt fields (m :: members) i = valuesAt fields members i := by
  unfold valuesAt
  rw [List.filter_cons_of_neg (by simp [h])]

theorem valuesAt_of_length_le {i : Nat} (h : fields.length ≤ i) : valuesAt fields members i = [] := by
  unfold valuesAt
  rw [List.filter_eq_nil_iff.mpr, List.map_nil]
  intro m _ hm
  have hlt := position?_lt (beq_iff_eq.mp hm)
  omega

/-! ## Slots -/

/-- What may be given once at most is the first of what is given. -/
theorem toList_eq_iff {value : Option Tree} {given : List Tree} :
    value.toList = given ↔ given.length ≤ 1 ∧ value = given.head? := by
  cases value with
  | none => cases given <;> simp
  | some v =>
    cases given with
    | nil => simp
    | cons w rest =>
      rw [Option.toList_some, List.cons.injEq, List.length_cons, List.head?_cons, Option.some.injEq,
        and_comm, eq_comm (a := []), ← List.length_eq_zero_iff]
      exact and_congr_left' (by omega)

theorem fillSlots_cons {e : Tree × Tree} {m : String × Tree} (h : IsMember e m) :
    fillSlots .stored fields (e :: entries) slots =
      match position? fields m.1 with
      | none => fillSlots .stored fields entries slots
      | some i =>
        match slots[i]? with
        | some (some _) => .error (.repeated ((fields[i]?.bind List.head?).getD ""))
        | _ => fillSlots .stored fields entries (slots.set i (some m.2)) := by
  obtain ⟨key, value⟩ := e
  obtain ⟨hkey, rfl⟩ := h
  have hposition : fieldOfKey? .stored fields key = .ok (position? fields m.1) := by
    unfold fieldOfKey?
    rw [hkey]
    rfl
  rw [fillSlots, hposition]
  rfl

theorem slots_ext (hlength : filled.length = slots.length)
    (h : ∀ i, (slot filled i).toList = (slot slots i).toList) : filled = slots := by
  refine List.ext_getElem hlength fun i hi hi' => ?_
  have hslot : slot filled i = slot slots i :=
    (toList_eq_iff.mp (h i)).2.trans (toList_eq_iff.mp rfl).2.symm
  rw [slot, slot, List.getElem?_eq_getElem hi, List.getElem?_eq_getElem hi'] at hslot
  exact hslot

/-- Each slot is filled with the only value that is given for its field. -/
theorem fillSlots_eq_ok_iff (hmembers : List.Forall₂ IsMember entries members)
    (hlength : slots.length = fields.length) :
    fillSlots .stored fields entries slots = .ok filled ↔
      filled.length = slots.length ∧
        ∀ i, (slot filled i).toList = (slot slots i).toList ++ valuesAt fields members i := by
  induction hmembers generalizing slots with
  | nil =>
    simp only [fillSlots, Except.ok.injEq, valuesAt, List.filter_nil, List.map_nil, List.append_nil]
    constructor
    · rintro rfl
      exact ⟨rfl, fun i => rfl⟩
    · rintro ⟨hsame, hslots⟩
      exact (slots_ext hsame hslots).symm
  | @cons e m entries members hm _ ih =>
    rw [fillSlots_cons hm]
    cases hposition : position? fields m.1 with
    | none =>
      have hvalues : ∀ i, valuesAt fields (m :: members) i = valuesAt fields members i :=
        fun i => valuesAt_cons_of_ne (by simp [hposition])
      simp only [hvalues]
      exact ih hlength
    | some j =>
      have hj : j < slots.length := hlength ▸ position?_lt hposition
      cases hslot : slot slots j with
      | some w =>
        have htaken : slots[j]? = some (some w) := by
          rw [slot, List.getElem?_eq_getElem hj] at hslot
          rw [List.getElem?_eq_getElem hj]
          exact congrArg some hslot
        simp only [htaken]
        refine iff_of_false (fun h => by cases h) fun h => ?_
        -- the slot would have to hold the value that is there and the one of this member
        have htwice := congrArg List.length (h.2 j)
        rw [hslot, valuesAt_cons_of_eq hposition] at htwice
        cases hfilled : slot filled j <;> simp [hfilled] at htwice
      | none =>
        have hfree : slots[j]? = some none := by
          rw [slot, List.getElem?_eq_getElem hj] at hslot
          rw [List.getElem?_eq_getElem hj]
          exact congrArg some hslot
        simp only [hfree]
        rw [ih ((List.length_set ..).trans hlength), List.length_set]
        refine and_congr_right fun _ => forall_congr' fun i => ?_
        by_cases hij : j = i
        · subst hij
          rw [slot_set_self hj, hslot, valuesAt_cons_of_eq hposition]
          rfl
        · have hne : position? fields m.1 ≠ some i := fun h =>
            hij (Option.some.inj (hposition.symm.trans h))
          rw [slot_set_ne hij, valuesAt_cons_of_ne hne]

theorem slots?_eq_ok_iff (h : t.IsObject members) :
    t.slots? .stored fields = .ok slots ↔
      slots.length = fields.length ∧ ∀ i, (slot slots i).toList = valuesAt fields members i := by
  obtain ⟨entries, rfl, hmembers⟩ := h
  show fillSlots .stored fields entries (List.replicate fields.length none) = .ok slots ↔ _
  rw [fillSlots_eq_ok_iff hmembers List.length_replicate, List.length_replicate]
  simp only [slot_replicate, Option.toList_none, List.nil_append]

/-- An object is a record if no field of it is given twice. -/
theorem exists_slots? (h : t.IsObject members)
    (honce : ∀ i, (valuesAt fields members i).length ≤ 1) :
    ∃ slots, t.slots? .stored fields = .ok slots := by
  refine ⟨(List.range fields.length).map fun i => (valuesAt fields members i).head?,
    (slots?_eq_ok_iff h).mpr ⟨by simp, fun i => toList_eq_iff.mpr ⟨honce i, ?_⟩⟩⟩
  by_cases hi : i < fields.length
  · simp [slot, hi]
  · rw [valuesAt_of_length_le (Nat.le_of_not_lt hi)]
    simp [slot, hi]

theorem valuesAt_eq {i : Nat} {name : String} (h : ∀ s, position? fields s = some i ↔ s = name)
    (members : List (String × Tree)) : valuesAt fields members i = valuesUnder members name := by
  unfold valuesAt valuesUnder
  refine congrArg _ (List.filter_congr fun m _ => ?_)
  rw [Bool.eq_iff_iff, beq_iff_eq, beq_iff_eq]
  exact h m.1

theorem readItems_eq_ok_iff {α : Type} {read : Tree → Except DecodeError α} {items : List Tree}
    {xs : List α} :
    readItems read items = .ok xs ↔ List.Forall₂ (fun t x => read t = .ok x) items xs := by
  induction items generalizing xs with
  | nil =>
    rw [List.forall₂_nil_left_iff, readItems, Except.ok.injEq, eq_comm]
  | cons t rest ih =>
    simp only [readItems, bind_eq_ok_iff, pure_eq_ok_iff, ih, List.forall₂_cons_left_iff]
    constructor
    · rintro ⟨x, hx, ys, hys, rfl⟩
      exact ⟨x, ys, hx, hys, rfl⟩
    · rintro ⟨x, ys, hx, hys, rfl⟩
      exact ⟨x, hx, ys, hys, rfl⟩

end Tree

end Paperwork
