import Paperwork.Proofs.Sequence
import Paperwork.Value

/-!
# Values as raw input

A value written as JSON is read back (`Value.ofRaw?_toJson`), so what is recorded for raw input that
has a value can be given again. Its value is empty if it is nothing, null, the empty text or the
empty array (`Value.isEmpty_ofRaw?_iff`). Input without a value is an object or an array with an item
that is no text; it is recorded as its JSON text, which starts with a bracket.
-/

namespace Paperwork

/-! ## Texts of numbers -/

theorem DecimalStyle.render_ne_empty (style : DecimalStyle) (s : Scientific) :
    style.render s ≠ "" := by
  unfold render
  dsimp only
  split
  · split
    · simp
    · split <;> simp
  · simp

/-- A number is never taken for no value. -/
theorem Number.text_ne_empty (n : Number) : n.text ≠ "" := by
  cases n with
  | natural n => exact Nat.repr_ne_empty
  | negative n =>
    rw [text]
    split
    · simp
    · exact Nat.repr_ne_empty
  | double x =>
    have hmagnitude : (if x.isZero then "0.0" else style.render x.shortest) ≠ "" := by
      split
      · decide
      · exact DecimalStyle.render_ne_empty _ _
    rw [text, doubleText]
    by_cases hnegative : x.negative
    · rw [if_pos hnegative]
      simp
    · rw [if_neg hnegative]
      exact hmagnitude

/-! ## Values read back -/

namespace Value

theorem textItems?_map_text (items : List String) : textItems? (items.map .text) = some items := by
  induction items with
  | nil => rfl
  | cons s items ih => rw [List.map_cons, textItems?, ih, Option.map_some]

@[simp] theorem ofRaw?_toJson (v : Value) : ofRaw? (some v.toJson) = some v := by
  cases v with
  | text s => rfl
  | flag b => rfl
  | list items =>
    show (textItems? (items.map .text)).map list = some (list items)
    rw [textItems?_map_text, Option.map_some]

/-- Raw input that has a value: nothing, a text, a number, a boolean or a list of texts. -/
def IsPlain : Option Json → Prop
  | none | some .null | some (.text _) | some (.number _) | some (.bool _) => True
  | some (.array items) => ∀ i ∈ items, ∃ s, i = .text s
  | some (.object _) => False

theorem isSome_textItems?_iff {items : List Json} :
    (textItems? items).isSome ↔ ∀ i ∈ items, ∃ s, i = .text s := by
  induction items with
  | nil => simp [textItems?]
  | cons i items ih => cases i <;> simp [textItems?, ih]

theorem isSome_ofRaw?_iff {raw : Option Json} : (ofRaw? raw).isSome ↔ IsPlain raw := by
  rcases raw with _ | (_ | b | n | s | items | members)
  case some.array => simp [ofRaw?, IsPlain, isSome_textItems?_iff]
  all_goals simp [ofRaw?, IsPlain]

theorem echo_eq_of_ofRaw? {raw : Option Json} {v : Value} (h : ofRaw? raw = some v) :
    echo raw = v := by
  unfold echo
  rw [h]

/-! ## Input with an empty value -/

theorem textItems?_eq_nil_iff {items : List Json} : textItems? items = some [] ↔ items = [] := by
  cases items with
  | nil => simp [textItems?]
  | cons i items => cases i <;> simp [textItems?]

/-- The raw input whose value is empty. -/
theorem isEmpty_ofRaw?_iff {raw : Option Json} {v : Value} (h : ofRaw? raw = some v) :
    v.isEmpty = true ↔
      raw = none ∨ raw = some .null ∨ raw = some (.text "") ∨ raw = some (.array []) := by
  rcases raw with _ | (_ | b | n | s | items | members)
  case some.number =>
    obtain rfl := Option.some.inj h
    simp [isEmpty, Number.text_ne_empty]
  case some.array =>
    obtain ⟨texts, htexts, rfl⟩ := Option.map_eq_some_iff.mp h
    rw [isEmpty, List.isEmpty_iff]
    constructor
    · rintro rfl
      simp [textItems?_eq_nil_iff.mp htexts]
    · intro hitems
      obtain rfl : items = [] := by simpa using hitems
      rw [textItems?_eq_nil_iff.mpr rfl] at htexts
      exact (Option.some.inj htexts).symm
  case some.object => cases h
  all_goals
    obtain rfl := Option.some.inj h
    simp [isEmpty, empty]

/-! ## Input without a value -/

/-- Texts that start with an opening bracket. -/
def StartsWithBracket (s : String) : Prop :=
  ∃ rest, s.toList = '[' :: rest ∨ s.toList = '\x7b' :: rest

theorem exists_echo_of_ofRaw?_eq_none {raw : Option Json} (h : ofRaw? raw = none) :
    ∃ s, echo raw = text s ∧ StartsWithBracket s := by
  rcases raw with _ | (_ | b | n | s | items | members)
  case some.array =>
    refine ⟨(Json.array items).compact, by unfold echo; rw [h], ?_⟩
    rw [Json.compact]
    exact ⟨(Json.compactItems items ++ "]").toList, .inl (by simp [String.toList_append])⟩
  case some.object =>
    refine ⟨(Json.object members).compact, by unfold echo; rw [h], ?_⟩
    rw [Json.compact]
    exact ⟨(Json.compactMembers members ++ "\x7d").toList, .inr (by simp [String.toList_append])⟩
  all_goals simp [ofRaw?] at h

theorem StartsWithBracket.ne_empty {s : String} (h : StartsWithBracket s) : s ≠ "" := by
  rintro rfl
  obtain ⟨rest, h | h⟩ := h <;> simp at h

end Value

/-! ## Members of an object -/

/-- A member that is entered is found under its name, and the other members are found as before. -/
theorem Json.memberIn?_putMember (k j : String) (v : Json) (members : List (String × Json)) :
    memberIn? (putMember k v members) j = if j = k then some v else memberIn? members j := by
  induction members with
  | nil =>
    by_cases hj : k = j
    · simp [putMember, memberIn?, hj]
    · simp [putMember, memberIn?, hj, Ne.symm hj]
  | cons m rest ih =>
    unfold putMember
    split
    · by_cases hj : k = j
      · simp [memberIn?, hj]
      · simp [memberIn?, hj, Ne.symm hj]
    · split
      · rename_i heq
        by_cases hj : m.1 = j
        · simp [memberIn?, heq, hj]
        · simp [memberIn?, heq, hj, Ne.symm hj]
      · rename_i hne
        by_cases hj : m.1 = j
        · subst hj
          simp [memberIn?, Ne.symm hne]
        · simpa [memberIn?, List.find?_cons, hj] using ih

/-! ## Fields as an object -/

theorem memberIn?_map_toJson (entries : List (String × Value)) (name : String) :
    Json.memberIn? (entries.map fun e => (e.1, e.2.toJson)) name =
      (entryAt name entries).map Value.toJson := by
  induction entries with
  | nil => rfl
  | cons e rest ih =>
    rw [Json.memberIn?] at ih ⊢
    rw [List.map_cons, List.find?_cons, entryAt]
    by_cases heq : name = e.1
    · simp [heq]
    · have hne : (e.1 == name) = false := by simpa using Ne.symm heq
      rw [if_neg heq, hne]
      exact ih

@[simp] theorem member?_toJson (fields : Fields) (name : String) :
    fields.toJson.member? name = (fields.get? name).map Value.toJson :=
  memberIn?_map_toJson fields.entries name

end Paperwork
