import Paperwork.Json.Basic
import Paperwork.Proofs.Dict

/-!
# Objects and dictionaries

The members of an object that is put in order are the entries of a dictionary (`objectOf_eq`), and
an object is looked up as the dictionary is. So of members with distinct names each one is found
under its own (`member?_objectOf`).
-/

namespace Paperwork.Json

theorem putMember_eq_putEntry (k : String) (v : Json) (members : List (String × Json)) :
    putMember k v members = putEntry k v members := by
  induction members with
  | nil => rfl
  | cons m rest ih => rw [putMember, putEntry, ih]

theorem objectOf_eq (members : List (String × Json)) :
    objectOf members = .object (Dict.ofList members).toList := by
  have hentries : ∀ d : Dict Json, members.foldl (fun done m => putMember m.1 m.2 done) d.entries =
      (members.foldl (fun d m => d.insert m.1 m.2) d).entries := by
    induction members with
    | nil => exact fun d => rfl
    | cons m rest ih =>
      intro d
      rw [List.foldl_cons, List.foldl_cons, ← ih, putMember_eq_putEntry]
      rfl
  exact congrArg object (hentries .empty)

theorem memberIn?_eq_entryAt (members : List (String × Json)) (k : String) :
    memberIn? members k = entryAt k members := by
  induction members with
  | nil => rfl
  | cons m rest ih =>
    rw [memberIn?] at ih ⊢
    rw [List.find?_cons, entryAt, ← ih]
    by_cases hk : k = m.1
    · simp [hk]
    · have hne : (m.1 == k) = false := by simpa using Ne.symm hk
      rw [if_neg hk, hne]

theorem memberIn?_cons (k : String) (v : Json) (rest : List (String × Json)) (key : String) :
    memberIn? ((k, v) :: rest) key = if key = k then some v else memberIn? rest key := by
  rw [memberIn?_eq_entryAt, memberIn?_eq_entryAt, entryAt]

theorem memberIn?_eq_none {members : List (String × Json)} {key : String}
    (h : key ∉ members.map (·.1)) : memberIn? members key = none := by
  rw [memberIn?_eq_entryAt, entryAt_eq_none_of_not_mem h]

@[simp] theorem member?_toList (d : Dict Json) (k : String) :
    (object d.toList).member? k = d.get? k :=
  memberIn?_eq_entryAt d.toList k

theorem member?_objectOf_eq (members : List (String × Json)) (k : String) :
    (objectOf members).member? k = (Dict.ofList members).get? k := by
  rw [objectOf_eq, member?_toList]

theorem member?_objectOf {members : List (String × Json)} (h : (members.map (·.1)).Nodup)
    (k : String) : (objectOf members).member? k = entryAt k members := by
  rw [member?_objectOf_eq, Dict.get?_ofList h]

/-- Members in the order of their names are an object as they stand. -/
theorem objectOf_of_inOrder {members : List (String × Json)} (h : InKeyOrder members) :
    objectOf members = .object members := by
  have htoList : members = (⟨members, h⟩ : Dict Json).toList := rfl
  rw [objectOf_eq, htoList, Dict.ofList_toList]

theorem canonical_objectOf {members : List (String × Json)} (h : ∀ m ∈ members, Canonical m.2) :
    (objectOf members).Canonical := by
  rw [objectOf_eq]
  exact .object (Dict.ofList members).inOrder fun m hm => h m (Dict.mem_of_mem_ofList hm)

end Paperwork.Json
