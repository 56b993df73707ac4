import Paperwork.Proofs.Json.Strings
import Paperwork.Proofs.Outcome

/-!
# Compact text is read back

A value without numbers is read back from its compact text as the tree of that value
(`read_compact`). Numbers are left out, since the reader rounds a double with many digits.
-/

namespace Paperwork.Json

/-- No number occurs at any level. -/
inductive NumberFree : Json → Prop
  | null : NumberFree null
  | bool (b : Bool) : NumberFree (bool b)
  | text (s : String) : NumberFree (text s)
  | array {items : List Json} : (∀ i ∈ items, NumberFree i) → NumberFree (array items)
  | object {members : List (String × Json)} :
      (∀ m ∈ members, NumberFree m.2) → NumberFree (object members)

theorem numberFree_array_iff {items : List Json} :
    NumberFree (array items) ↔ ∀ i ∈ items, NumberFree i :=
  ⟨fun | .array h => h, .array⟩

theorem numberFree_object_iff {members : List (String × Json)} :
    NumberFree (object members) ↔ ∀ m ∈ members, NumberFree m.2 :=
  ⟨fun | .object h => h, .object⟩

/-! ## How values are spelled -/

theorem spelling_quote (s : String) :
    spelling (quote s).toList = 34 :: (spelling (s.toList.flatMap escapeChar) ++ [34]) := by
  rw [quote, String.toList_ofList, List.cons_append, spelling_cons, spelling_append]
  rfl

theorem spelling_array (items : List Json) : spelling (array items).compact.toList =
    91 :: (spelling (compactItems items).toList ++ [93]) := by
  rw [compact, String.toList_append, String.toList_append, spelling_append, spelling_append]
  rfl

theorem spelling_object (members : List (String × Json)) :
    spelling (object members).compact.toList =
      123 :: (spelling (compactMembers members).toList ++ [125]) := by
  rw [compact, String.toList_append, String.toList_append, spelling_append, spelling_append]
  rfl

theorem spelling_items (v w : Json) (rest : List Json) :
    spelling (compactItems (v :: w :: rest)).toList =
      spelling v.compact.toList ++ 44 :: spelling (compactItems (w :: rest)).toList := by
  rw [compactItems, String.toList_append, String.toList_append, spelling_append, spelling_append,
    List.append_assoc]
  rfl

theorem spelling_lastMember (k : String) (v : Json) :
    spelling (compactMembers [(k, v)]).toList =
      spelling (quote k).toList ++ 58 :: spelling v.compact.toList := by
  rw [compactMembers, String.toList_append, String.toList_append, spelling_append, spelling_append,
    List.append_assoc]
  rfl

theorem spelling_members (k : String) (v : Json) (m : String × Json) (rest : List (String × Json)) :
    spelling (compactMembers ((k, v) :: m :: rest)).toList =
      spelling (quote k).toList ++ 58 :: (spelling v.compact.toList ++
        44 :: spelling (compactMembers (m :: rest)).toList) := by
  rw [compactMembers, String.toList_append, String.toList_append, String.toList_append,
    String.toList_append, spelling_append, spelling_append, spelling_append, spelling_append,
    List.append_assoc, List.append_assoc, List.append_assoc]
  rfl

/-- What values without numbers start with: neither a blank nor a closing bracket. -/
theorem exists_spelling_eq_cons {v : Json} (h : NumberFree v) :
    ∃ b more, spelling v.compact.toList = b :: more ∧ isBlankByte b = false ∧ b ≠ 93 := by
  cases h with
  | null => exact ⟨110, _, rfl, rfl, by decide⟩
  | bool b =>
    cases b with
    | true => exact ⟨116, _, rfl, rfl, by decide⟩
    | false => exact ⟨102, _, rfl, rfl, by decide⟩
  | text s => exact ⟨34, _, spelling_quote s, rfl, by decide⟩
  | array _ => exact ⟨91, _, spelling_array _, rfl, by decide⟩
  | object _ => exact ⟨123, _, spelling_object _, rfl, by decide⟩

theorem skipBlanks_of_not_blank {b : UInt8} (h : isBlankByte b = false) (rest : List UInt8) :
    skipBlanks (b :: rest) = b :: rest := by
  rw [skipBlanks, List.dropWhile_cons, h]
  rfl

/-! ## How they are read -/

/-- A text is read after its opening quote. -/
theorem readString_afterQuote (s : String) (rest : List UInt8) :
    ∃ body, spelling (quote s).toList ++ rest = 34 :: body ∧
      readString body ⟨.empty, false⟩ = .ok (.text s, rest) := by
  refine ⟨spelling (s.toList.flatMap escapeChar) ++ 34 :: rest, ?_, readString_quoted s rest⟩
  rw [spelling_quote, List.cons_append, List.append_assoc]
  rfl

theorem dropWord_spelling (word : String) (rest : List UInt8) :
    dropWord word (spelling word.toList ++ rest) = .ok rest := by
  have hstart : (spelling word.toList).isPrefixOf (spelling word.toList ++ rest) = true :=
    List.isPrefixOf_iff_prefix.mpr (List.prefix_append _ rest)
  rw [dropWord, toList_toUTF8]
  simp only [hstart, if_true, List.drop_left]

theorem readValue_null (fuel : Nat) (rest : List UInt8) :
    readValue (fuel + 1) (spelling null.compact.toList ++ rest) = .ok (Tree.ofJson null, rest) := by
  have hword : dropWord "null" (110 :: 117 :: 108 :: 108 :: rest) = .ok rest :=
    dropWord_spelling "null" rest
  show readValue (fuel + 1) (110 :: 117 :: 108 :: 108 :: rest) = _
  rw [readValue, skipBlanks_of_not_blank rfl]
  exact bind_eq_ok_iff.mpr ⟨_, hword, rfl⟩

theorem readValue_bool (b : Bool) (fuel : Nat) (rest : List UInt8) :
    readValue (fuel + 1) (spelling (bool b).compact.toList ++ rest) =
      .ok (Tree.ofJson (bool b), rest) := by
  cases b with
  | true =>
    have hword : dropWord "true" (116 :: 114 :: 117 :: 101 :: rest) = .ok rest :=
      dropWord_spelling "true" rest
    show readValue (fuel + 1) (116 :: 114 :: 117 :: 101 :: rest) = _
    rw [readValue, skipBlanks_of_not_blank rfl]
    exact bind_eq_ok_iff.mpr ⟨_, hword, rfl⟩
  | false =>
    have hword : dropWord "false" (102 :: 97 :: 108 :: 115 :: 101 :: rest) = .ok rest :=
      dropWord_spelling "false" rest
    show readValue (fuel + 1) (102 :: 97 :: 108 :: 115 :: 101 :: rest) = _
    rw [readValue, skipBlanks_of_not_blank rfl]
    exact bind_eq_ok_iff.mpr ⟨_, hword, rfl⟩

theorem readValue_text (s : String) (fuel : Nat) (rest : List UInt8) :
    readValue (fuel + 1) (spelling (text s).compact.toList ++ rest) =
      .ok (Tree.ofJson (text s), rest) := by
  obtain ⟨body, hbody, hread⟩ := readString_afterQuote s rest
  rw [compact, hbody, readValue, skipBlanks_of_not_blank rfl]
  exact bind_eq_ok_iff.mpr ⟨_, hread, rfl⟩

section Steps

variable {fuel : Nat} {bytes body more rest : List UInt8} {k : Leaf} {t : Tree}

/-- A bracket that is not closed at once opens items. -/
theorem readValue_bracket {b : UInt8} {items : List Tree} (hblank : isBlankByte b = false)
    (hopen : b ≠ 93) (h : readItems fuel (b :: more) = .ok (items, rest)) :
    readValue (fuel + 1) (91 :: b :: more) = .ok (.sequence items, rest) := by
  rw [readValue, skipBlanks_of_not_blank rfl]
  dsimp only
  rw [if_neg (by decide), if_pos (beq_self_eq_true _), skipBlanks_of_not_blank hblank]
  split
  · rename_i heq
    cases heq
    exact (hopen rfl).elim
  · exact bind_eq_ok_iff.mpr ⟨_, h, rfl⟩

/-- A brace before a quote opens entries. -/
theorem readValue_brace {entries : List (Tree × Tree)}
    (h : readEntries fuel (34 :: body) = .ok (entries, rest)) :
    readValue (fuel + 1) (123 :: 34 :: body) = .ok (.mapping entries, rest) := by
  rw [readValue, skipBlanks_of_not_blank rfl]
  exact bind_eq_ok_iff.mpr ⟨_, h, rfl⟩

theorem readItems_last (h : readValue fuel bytes = .ok (t, 93 :: rest)) :
    readItems (fuel + 1) bytes = .ok ([t], rest) := by
  rw [readItems, bind_eq_ok_iff]
  exact ⟨_, h, rfl⟩

theorem readItems_cons {items : List Tree} (hfirst : readValue fuel bytes = .ok (t, 44 :: more))
    (hothers : readItems fuel more = .ok (items, rest)) :
    readItems (fuel + 1) bytes = .ok (t :: items, rest) := by
  rw [readItems]
  refine bind_eq_ok_iff.mpr ⟨_, hfirst, ?_⟩
  exact bind_eq_ok_iff.mpr ⟨_, hothers, rfl⟩

theorem readEntries_last (hname : readString body ⟨.empty, false⟩ = .ok (k, 58 :: more))
    (hvalue : readValue fuel more = .ok (t, 125 :: rest)) :
    readEntries (fuel + 1) (34 :: body) = .ok ([(.leaf k none, t)], rest) := by
  rw [readEntries, skipBlanks_of_not_blank rfl]
  refine bind_eq_ok_iff.mpr ⟨_, hname, ?_⟩
  exact bind_eq_ok_iff.mpr ⟨_, hvalue, rfl⟩

theorem readEntries_cons {others : List UInt8} {entries : List (Tree × Tree)}
    (hname : readString body ⟨.empty, false⟩ = .ok (k, 58 :: more))
    (hvalue : readValue fuel more = .ok (t, 44 :: others))
    (hothers : readEntries fuel others = .ok (entries, rest)) :
    readEntries (fuel + 1) (34 :: body) = .ok ((.leaf k none, t) :: entries, rest) := by
  rw [readEntries, skipBlanks_of_not_blank rfl]
  refine bind_eq_ok_iff.mpr ⟨_, hname, ?_⟩
  refine bind_eq_ok_iff.mpr ⟨_, hvalue, ?_⟩
  exact bind_eq_ok_iff.mpr ⟨_, hothers, rfl⟩

end Steps

theorem exists_spelling_items_eq_cons {v : Json} (h : NumberFree v) (items : List Json) :
    ∃ b more, spelling (compactItems (v :: items)).toList = b :: more ∧ isBlankByte b = false ∧
      b ≠ 93 := by
  obtain ⟨b, more, hspelling, hb⟩ := exists_spelling_eq_cons h
  cases items with
  | nil => exact ⟨b, more, hspelling, hb⟩
  | cons w rest =>
    refine ⟨b, more ++ 44 :: spelling (compactItems (w :: rest)).toList, ?_, hb⟩
    rw [spelling_items, hspelling, List.cons_append]

theorem exists_spelling_members_eq_cons (m : String × Json) (members : List (String × Json)) :
    ∃ body, spelling (compactMembers (m :: members)).toList = 34 :: body := by
  obtain ⟨k, v⟩ := m
  cases members with
  | nil => exact ⟨_, by rw [spelling_lastMember, spelling_quote, List.cons_append]⟩
  | cons m' rest => exact ⟨_, by rw [spelling_members, spelling_quote, List.cons_append]⟩

/--
What is read back with an amount of fuel: spellings that are not longer. The fuel of items and
members also pays for the bracket that closes them.
-/
structure ReadsBack (fuel : Nat) : Prop where
  value (v : Json) (rest : List UInt8) : NumberFree v →
    (spelling v.compact.toList).length ≤ fuel →
    readValue fuel (spelling v.compact.toList ++ rest) = .ok (Tree.ofJson v, rest)
  items (v : Json) (items : List Json) (rest : List UInt8) : (∀ i ∈ v :: items, NumberFree i) →
    (spelling (compactItems (v :: items)).toList).length < fuel →
    readItems fuel (spelling (compactItems (v :: items)).toList ++ 93 :: rest) =
      .ok (Tree.ofJsonItems (v :: items), rest)
  entries (m : String × Json) (members : List (String × Json)) (rest : List UInt8) :
    (∀ x ∈ m :: members, NumberFree x.2) →
    (spelling (compactMembers (m :: members)).toList).length < fuel →
    readEntries fuel (spelling (compactMembers (m :: members)).toList ++ 125 :: rest) =
      .ok (Tree.ofJsonMembers (m :: members), rest)

namespace ReadsBack

variable {fuel : Nat} (h : ReadsBack fuel) (rest : List UInt8)
include h

theorem array_succ (items : List Json) (hfree : ∀ i ∈ items, NumberFree i)
    (hfuel : (spelling (array items).compact.toList).length ≤ fuel + 1) :
    readValue (fuel + 1) (spelling (array items).compact.toList ++ rest) =
      .ok (.sequence (Tree.ofJsonItems items), rest) := by
  cases items with
  | nil =>
    rw [spelling_array, readValue]
    rfl
  | cons v items =>
    obtain ⟨b, more, hstart, hblank, hopen⟩ :=
      exists_spelling_items_eq_cons (hfree v List.mem_cons_self) items
    rw [spelling_array, List.length_cons, List.length_append, List.length_singleton] at hfuel
    have hread := h.items v items rest hfree (by omega)
    rw [spelling_array, List.cons_append, List.append_assoc, List.singleton_append]
    rw [hstart] at hread ⊢
    exact readValue_bracket hblank hopen hread

theorem object_succ (members : List (String × Json)) (hfree : ∀ m ∈ members, NumberFree m.2)
    (hfuel : (spelling (object members).compact.toList).length ≤ fuel + 1) :
    readValue (fuel + 1) (spelling (object members).compact.toList ++ rest) =
      .ok (.mapping (Tree.ofJsonMembers members), rest) := by
  cases members with
  | nil =>
    rw [spelling_object, readValue]
    rfl
  | cons m members =>
    obtain ⟨body, hstart⟩ := exists_spelling_members_eq_cons m members
    rw [spelling_object, List.length_cons, List.length_append, List.length_singleton] at hfuel
    have hread := h.entries m members rest hfree (by omega)
    rw [spelling_object, List.cons_append, List.append_assoc, List.singleton_append]
    rw [hstart] at hread ⊢
    exact readValue_brace hread

theorem value_succ (v : Json) (hfree : NumberFree v)
    (hfuel : (spelling v.compact.toList).length ≤ fuel + 1) :
    readValue (fuel + 1) (spelling v.compact.toList ++ rest) = .ok (Tree.ofJson v, rest) := by
  cases hfree with
  | null => exact readValue_null fuel rest
  | bool b => exact readValue_bool b fuel rest
  | text s => exact readValue_text s fuel rest
  | array hitems => exact h.array_succ rest _ hitems hfuel
  | object hmembers => exact h.object_succ rest _ hmembers hfuel

theorem items_succ (v : Json) (items : List Json) (hfree : ∀ i ∈ v :: items, NumberFree i)
    (hfuel : (spelling (compactItems (v :: items)).toList).length < fuel + 1) :
    readItems (fuel + 1) (spelling (compactItems (v :: items)).toList ++ 93 :: rest) =
      .ok (Tree.ofJsonItems (v :: items), rest) := by
  obtain ⟨hv, hothers⟩ := List.forall_mem_cons.mp hfree
  cases items with
  | nil =>
    rw [compactItems] at hfuel ⊢
    exact readItems_last (h.value v (93 :: rest) hv (by omega))
  | cons w items =>
    rw [spelling_items, List.length_append, List.length_cons] at hfuel
    have hvalue := h.value v (44 :: (spelling (compactItems (w :: items)).toList ++ 93 :: rest)) hv
      (by omega)
    have hread := h.items w items rest hothers (by omega)
    rw [spelling_items, List.append_assoc, List.cons_append]
    exact readItems_cons hvalue hread

theorem entries_succ (m : String × Json) (members : List (String × Json))
    (hfree : ∀ x ∈ m :: members, NumberFree x.2)
    (hfuel : (spelling (compactMembers (m :: members)).toList).length < fuel + 1) :
    readEntries (fuel + 1) (spelling (compactMembers (m :: members)).toList ++ 125 :: rest) =
      .ok (Tree.ofJsonMembers (m :: members), rest) := by
  obtain ⟨hv, hothers⟩ := List.forall_mem_cons.mp hfree
  obtain ⟨k, v⟩ := m
  cases members with
  | nil =>
    rw [spelling_lastMember, List.length_append, List.length_cons] at hfuel
    obtain ⟨body, hbody, hname⟩ :=
      readString_afterQuote k (58 :: (spelling v.compact.toList ++ 125 :: rest))
    have hvalue := h.value v (125 :: rest) hv (by omega)
    rw [spelling_lastMember, List.append_assoc, List.cons_append, hbody]
    exact readEntries_last hname hvalue
  | cons m members =>
    rw [spelling_members, List.length_append, List.length_cons, List.length_append,
      List.length_cons] at hfuel
    obtain ⟨body, hbody, hname⟩ := readString_afterQuote k (58 :: (spelling v.compact.toList ++
      44 :: (spelling (compactMembers (m :: members)).toList ++ 125 :: rest)))
    have hvalue := h.value v
      (44 :: (spelling (compactMembers (m :: members)).toList ++ 125 :: rest)) hv (by omega)
    have hread := h.entries m members rest hothers (by omega)
    rw [spelling_members, List.append_assoc, List.cons_append, List.append_assoc, List.cons_append,
      hbody]
    exact readEntries_cons hname hvalue hread

end ReadsBack

-- the reader's own recursion: every call has one unit of fuel less
theorem readsBack (fuel : Nat) : ReadsBack fuel := by
  induction fuel with
  | zero =>
    refine ⟨fun v rest hv hfuel => ?_, fun _ _ _ _ hfuel => ?_, fun _ _ _ _ hfuel => ?_⟩
    · obtain ⟨b, more, hspelling, -, -⟩ := exists_spelling_eq_cons hv
      simp [hspelling] at hfuel
    · exact absurd hfuel (Nat.not_lt_zero _)
    · exact absurd hfuel (Nat.not_lt_zero _)
  | succ fuel ih =>
    exact ⟨fun v rest => ih.value_succ rest v, fun v items rest => ih.items_succ rest v items,
      fun m members rest => ih.entries_succ rest m members⟩

/-- The compact text of a value without numbers is read back as the tree of the value. -/
theorem read_compact {v : Json} (h : NumberFree v) :
    read v.compact.toUTF8 = .ok (Tree.ofJson v) := by
  have hvalue := (readsBack _).value v [] h (Nat.le_succ (spelling v.compact.toList).length)
  rw [List.append_nil] at hvalue
  rw [read, toList_toUTF8]
  simp only [hvalue]
  rfl

end Paperwork.Json
