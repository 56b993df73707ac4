import Paperwork.Json.Reader
import Paperwork.Proofs.Outcome

/-!
# Nesting of values

The tree of a value is read as a value again exactly if the nesting of the value stays within the
levels that are read (`Tree.within_json?`), and there is no other reason to refuse it.
-/

namespace Paperwork

namespace Json

mutual

/-- Levels of arrays and objects in a value. -/
def depth : Json → Nat
  | array items => itemsDepth items + 1
  | object members => membersDepth members + 1
  | _ => 0

/-- Levels of the item with the most. -/
def itemsDepth : List Json → Nat
  | [] => 0
  | v :: rest => max v.depth (itemsDepth rest)

/-- Levels of the member with the most. -/
def membersDepth : List (String × Json) → Nat
  | [] => 0
  | (_, v) :: rest => max v.depth (membersDepth rest)

end

theorem depth_lt_of_mem {items : List Json} {v : Json} (h : v ∈ items) :
    v.depth < (array items).depth := by
  rw [depth, Nat.lt_succ_iff]
  induction items with
  | nil => cases h
  | cons w rest ih =>
    rw [itemsDepth]
    rcases List.mem_cons.mp h with rfl | hrest
    · exact Nat.le_max_left _ _
    · exact Nat.le_trans (ih hrest) (Nat.le_max_right _ _)

theorem depth_lt_of_mem_members {members : List (String × Json)} {m : String × Json}
    (h : m ∈ members) : m.2.depth < (object members).depth := by
  rw [depth, Nat.lt_succ_iff]
  induction members with
  | nil => cases h
  | cons n rest ih =>
    rw [membersDepth]
    rcases List.mem_cons.mp h with rfl | hrest
    · exact Nat.le_max_left _ _
    · exact Nat.le_trans (ih hrest) (Nat.le_max_right _ _)

theorem depth_array_le {items : List Json} {n : Nat} (h : ∀ v ∈ items, v.depth ≤ n) :
    (array items).depth ≤ n + 1 := by
  rw [depth, Nat.succ_le_succ_iff]
  induction items with
  | nil => exact Nat.zero_le n
  | cons v rest ih =>
    obtain ⟨hv, hrest⟩ := List.forall_mem_cons.mp h
    exact Nat.max_le.mpr ⟨hv, ih hrest⟩

theorem depth_object_le {members : List (String × Json)} {n : Nat}
    (h : ∀ m ∈ members, m.2.depth ≤ n) : (object members).depth ≤ n + 1 := by
  rw [depth, Nat.succ_le_succ_iff]
  induction members with
  | nil => exact Nat.zero_le n
  | cons m rest ih =>
    obtain ⟨hm, hrest⟩ := List.forall_mem_cons.mp h
    exact Nat.max_le.mpr ⟨hm, ih hrest⟩

theorem depth_lt_of_member? {v w : Json} {key : String} (h : v.member? key = some w) :
    w.depth < v.depth := by
  cases v with
  | object members =>
    obtain ⟨m, hm, rfl⟩ := Option.map_eq_some_iff.mp h
    exact depth_lt_of_mem_members (List.mem_of_find?_eq_some hm)
  | _ => cases h

end Json

namespace Tree

/-- Reading stays within a limit and succeeds, or it fails since the limit is passed. -/
inductive Within {α : Type} (depth limit : Nat) : Except DecodeError α → Prop
  | ok (a : α) (h : depth ≤ limit) : Within depth limit (.ok a)
  | tooDeep (h : limit < depth) : Within depth limit (.error .tooDeep)

namespace Within

variable {α β : Type} {depth limit : Nat} {run : Except DecodeError α}

theorem map (h : Within depth limit run) (f : α → β) :
    Within (depth + 1) (limit + 1) (run.map f) := by
  cases h with
  | ok a h => exact .ok (f a) (Nat.succ_le_succ h)
  | tooDeep h => exact .tooDeep (Nat.succ_lt_succ h)

theorem bind {d : Nat} {next : α → Except DecodeError β} (h : Within depth limit run)
    (hnext : ∀ a, Within d limit (next a)) : Within (max depth d) limit (run >>= next) := by
  cases h with
  | ok a h =>
    show Within (max depth d) limit (next a)
    have hrest := hnext a
    generalize next a = rest at hrest ⊢
    cases hrest with
    | ok b hb => exact .ok b (Nat.max_le.mpr ⟨h, hb⟩)
    | tooDeep hb => exact .tooDeep (Nat.lt_of_lt_of_le hb (Nat.le_max_right depth d))
  | tooDeep h => exact .tooDeep (Nat.lt_of_lt_of_le h (Nat.le_max_left depth d))

theorem pure (a : α) : Within 0 limit (Pure.pure a) := .ok a (Nat.zero_le limit)

theorem exists_ok (h : Within depth limit run) (hdepth : depth ≤ limit) : ∃ a, run = .ok a := by
  cases h with
  | ok a _ => exact ⟨a, rfl⟩
  | tooDeep hlimit => exact absurd hdepth (Nat.not_le.mpr hlimit)

theorem eq_tooDeep (h : Within depth limit run) (hlimit : limit < depth) :
    run = .error .tooDeep := by
  cases h with
  | ok a hdepth => exact absurd hdepth (Nat.not_le.mpr hlimit)
  | tooDeep _ => rfl

end Within

variable (reading : Reading)

@[simp] theorem text?_text (s : String) : (text s).text? reading = .ok s := by
  obtain ⟨positional, spelled⟩ := reading
  cases spelled <;> rfl

mutual

/-- The tree of a value is read back up to a number of levels of nesting. -/
theorem within_json? (v : Json) (levels : Nat) :
    Within v.depth levels (json? reading levels (ofJson v)) := by
  cases v with
  | null => exact .ok _ (Nat.zero_le levels)
  | bool b => exact .ok _ (Nat.zero_le levels)
  | number n => exact .ok _ (Nat.zero_le levels)
  | text s => exact .ok _ (Nat.zero_le levels)
  | array items =>
    rw [Json.depth, ofJson]
    cases levels with
    | zero => exact .tooDeep (Nat.succ_pos _)
    | succ n => exact (within_jsonItems? items n).map Json.array
  | object members =>
    rw [Json.depth, ofJson]
    cases levels with
    | zero => exact .tooDeep (Nat.succ_pos _)
    | succ n => exact (within_jsonEntries? members n).map Json.objectOf

theorem within_jsonItems? (items : List Json) (levels : Nat) :
    Within (Json.itemsDepth items) levels (jsonItems? reading levels (ofJsonItems items)) := by
  cases items with
  | nil => exact .ok _ (Nat.zero_le levels)
  | cons v rest =>
    rw [Json.itemsDepth, ofJsonItems, jsonItems?]
    refine (within_json? v levels).bind fun w => ?_
    rw [← Nat.max_zero (Json.itemsDepth rest)]
    exact (within_jsonItems? rest levels).bind fun ws => .pure (w :: ws)

theorem within_jsonEntries? (members : List (String × Json)) (levels : Nat) :
    Within (Json.membersDepth members) levels
      (jsonEntries? reading levels (ofJsonMembers members)) := by
  cases members with
  | nil => exact .ok _ (Nat.zero_le levels)
  | cons m rest =>
    obtain ⟨name, v⟩ := m
    rw [Json.membersDepth, ofJsonMembers, jsonEntries?]
    rw [text?_text]
    show Within _ levels (json? reading levels (ofJson v) >>= _)
    refine (within_json? v levels).bind fun w => ?_
    rw [← Nat.max_zero (Json.membersDepth rest)]
    exact (within_jsonEntries? rest levels).bind fun ws => .pure ((name, w) :: ws)

end

end Tree

end Paperwork
