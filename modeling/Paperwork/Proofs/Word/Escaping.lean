import Paperwork.Proofs.Word.Markup

/-!
# Escaped texts

Five characters are written as entities and all others as they are, so escaping goes character by
character. An ampersand in an escaped text begins an entity (`exists_entity_of_escape_eq`), and
reading the entities from left to right gives the text back (`unescape_escape`), also where the text
has entities, or parts of them, of its own. Together they say that escaping loses nothing and lets
nothing through (`escape_is_faithful`). Character data is escaped alike, except for the quotes.
-/

namespace Paperwork.Markup

variable {text before behind : List Char} {c : Char}

/-- The entities and the characters that they stand for. -/
def entities : List (String × Char) :=
  [("&amp;", '&'), ("&lt;", '<'), ("&gt;", '>'), ("&quot;", '"'), ("&apos;", '\'')]

/-- The entity that a text starts with. -/
def entityAt? (text : List Char) : Option (String × Char) :=
  entities.find? fun e => e.1.toList.isPrefixOf text

/-- A text with its entities read as the characters that they stand for, in one pass. -/
def unescape : List Char → List Char
  | [] => []
  | c :: rest =>
    match entityAt? (c :: rest) with
    | some e => e.2 :: unescape (rest.drop (e.1.toList.length - 1))
    | none => c :: unescape rest
termination_by text => text.length
decreasing_by all_goals simp only [List.length_drop, List.length_cons]; omega

/-! ## Written forms -/

/-- A character that has an entity is written as it, and any other one as it is. -/
theorem escapeChar_cases (c : Char) :
    (∃ e ∈ entities, e.2 = c ∧ escapeChar c = e.1.toList) ∨
      (∀ e ∈ entities, e.2 ≠ c) ∧ escapeChar c = [c] := by
  by_cases hspecial : ∃ e ∈ entities, e.2 = c
  · left
    obtain ⟨e, he, rfl⟩ := hspecial
    refine ⟨e, he, rfl, ?_⟩
    revert e
    decide
  · right
    have hplain : ∀ e ∈ entities, e.2 ≠ c := fun e he heq => hspecial ⟨e, he, heq⟩
    refine ⟨hplain, ?_⟩
    simp only [entities, List.forall_mem_cons] at hplain
    obtain ⟨hamp, hopen, hclose, hquote, hapostrophe, -⟩ := hplain
    unfold escapeChar
    rw [if_neg (Ne.symm hamp), if_neg (Ne.symm hopen), if_neg (Ne.symm hclose),
      if_neg (Ne.symm hquote), if_neg (Ne.symm hapostrophe)]

/-- An entity starts with an ampersand, and has no other special character. -/
theorem shape_of_entity : ∀ e ∈ entities,
    e.1.toList = '&' :: e.1.toList.tail ∧ ∀ special ∈ entities, special.2 ∉ e.1.toList.tail := by
  decide

/-- The only special character of an escaped text is the ampersand. -/
theorem not_mem_escape (hc : c ∈ ['<', '>', '"', '\'']) (text : List Char) : c ∉ escape text := by
  have hspecial : ∀ x ∈ ['<', '>', '"', '\''], x ≠ '&' ∧ ∃ special ∈ entities, special.2 = x := by
    simp [entities]
  obtain ⟨hamp, special, hspecial, rfl⟩ := hspecial c hc
  intro h
  obtain ⟨x, -, hx⟩ := List.mem_flatMap.mp h
  rcases escapeChar_cases x with ⟨e, he, -, hwritten⟩ | ⟨hplain, hwritten⟩
  · obtain ⟨hshape, hname⟩ := shape_of_entity e he
    rw [hwritten, hshape, List.mem_cons] at hx
    exact hx.elim hamp (hname special hspecial)
  · rw [hwritten, List.mem_singleton] at hx
    exact hplain special hspecial hx

theorem escape_cons (c : Char) (rest : List Char) : escape (c :: rest) = escapeChar c ++ escape rest :=
  List.flatMap_cons

theorem escape_append (a b : List Char) : escape (a ++ b) = escape a ++ escape b :=
  List.flatMap_append

/-- An ampersand in the written form of a character starts it, and it is an entity. -/
theorem exists_entity_of_escapeChar_eq (h : escapeChar c = before ++ '&' :: behind) :
    before = [] ∧ ∃ e ∈ entities, e.1.toList = '&' :: behind := by
  rcases escapeChar_cases c with ⟨e, he, -, hwritten⟩ | ⟨hplain, hwritten⟩
  · obtain ⟨hshape, hname⟩ := shape_of_entity e he
    cases before with
    | nil => exact ⟨rfl, e, he, hwritten.symm.trans h⟩
    | cons x before =>
      rw [hwritten, hshape] at h
      obtain ⟨-, htail⟩ := List.cons.inj h
      refine absurd ?_ (hname ("&amp;", '&') (by decide))
      rw [htail]
      exact List.mem_append_right before List.mem_cons_self
  · have hmem : '&' ∈ escapeChar c := by
      rw [h]
      exact List.mem_append_right before List.mem_cons_self
    rw [hwritten, List.mem_singleton] at hmem
    exact absurd hmem (hplain ("&amp;", '&') (by decide))

/-- Each ampersand in an escaped text begins an entity. -/
theorem exists_entity_of_escape_eq (h : escape text = before ++ '&' :: behind) :
    ∃ e ∈ entities, e.1.toList <+: '&' :: behind := by
  induction text generalizing before with
  | nil => simp [escape] at h
  | cons c rest ih =>
    rw [escape_cons] at h
    rcases List.append_eq_append_iff.mp h with ⟨later, -, hrest⟩ | ⟨part, hc, hbehind⟩
    · exact ih hrest
    · cases part with
      | nil => exact @ih [] hbehind.symm
      | cons x part =>
        obtain ⟨rfl, hbehind⟩ := List.cons.inj hbehind
        obtain ⟨-, e, he, hentity⟩ := exists_entity_of_escapeChar_eq hc
        refine ⟨e, he, escape rest, ?_⟩
        rw [hentity, hbehind, List.cons_append]

/-! ## Reading back -/

theorem entityAt?_entity {e : String × Char} (he : e ∈ entities) (rest : List Char) :
    entityAt? (e.1.toList ++ rest) = some e := by
  revert e
  simp only [entities, List.forall_mem_cons]
  exact ⟨rfl, rfl, rfl, rfl, rfl, by simp⟩

theorem entityAt?_of_ne (h : c ≠ '&') (rest : List Char) : entityAt? (c :: rest) = none := by
  refine List.find?_eq_none.mpr fun e he hstart => h ?_
  obtain ⟨more, hmore⟩ := List.isPrefixOf_iff_prefix.mp hstart
  rw [(shape_of_entity e he).1] at hmore
  exact (List.cons.inj hmore).1.symm

/-- The written form of a character is read as this character. -/
theorem unescape_escapeChar_append (c : Char) (rest : List Char) :
    unescape (escapeChar c ++ rest) = c :: unescape rest := by
  rcases escapeChar_cases c with ⟨e, he, rfl, hwritten⟩ | ⟨hplain, hwritten⟩
  · have hentity := entityAt?_entity he rest
    obtain ⟨hshape, -⟩ := shape_of_entity e he
    have hlength : e.1.toList.length - 1 = e.1.toList.tail.length := by rw [List.length_tail]
    rw [hwritten, hshape, List.cons_append, unescape]
    rw [hshape, List.cons_append] at hentity
    simp only [hentity, hlength, List.drop_left]
  · have hamp : c ≠ '&' := Ne.symm (hplain ("&amp;", '&') (by decide))
    rw [hwritten, List.singleton_append, unescape]
    simp only [entityAt?_of_ne hamp]

theorem unescape_escape (text : List Char) : unescape (escape text) = text := by
  induction text with
  | nil => exact unescape.eq_1
  | cons c rest ih => rw [escape_cons, unescape_escapeChar_append, ih]

/--
Escaping loses nothing and lets nothing through: an escaped text has no angles and no quotes, each
ampersand in it begins an entity, reading the entities gives the text back, and texts are escaped
piece by piece.
-/
theorem escape_is_faithful (s t : List Char) :
    (∀ c ∈ ['<', '>', '"', '\''], c ∉ escape s) ∧
      (∀ before behind, escape s = before ++ '&' :: behind →
        ∃ e ∈ entities, e.1.toList <+: '&' :: behind) ∧
      unescape (escape s) = s ∧ (escape s = escape t ↔ s = t) ∧
      escape (s ++ t) = escape s ++ escape t := by
  refine ⟨fun c hc => not_mem_escape hc s, fun before behind h => exists_entity_of_escape_eq h,
    unescape_escape s, ?_, escape_append s t⟩
  constructor
  · intro h
    rw [← unescape_escape s, h, unescape_escape]
  · intro h
    rw [h]

/-! ## Character data -/

/-- The written form of a character in the text of an element, where quotes mean nothing. -/
def dataChar (c : Char) : List Char := if c ∈ ['&', '<', '>'] then escapeChar c else [c]

/-- A text as the text of an element. -/
def characterData (text : List Char) : List Char := text.flatMap dataChar

theorem dataChar_of_mem (h : c ∈ ['&', '<', '>']) : dataChar c = escapeChar c := if_pos h

theorem dataChar_of_not_mem (h : c ∉ ['&', '<', '>']) : dataChar c = [c] := if_neg h

/-- The entities of character data have neither angles nor brackets, and more than one character. -/
theorem shape_of_dataChar : ∀ c ∈ ['&', '<', '>'],
    (∀ x ∈ ['<', '>', '[', ']'], x ∉ escapeChar c) ∧ 1 < (escapeChar c).length ∧
      (escapeChar c).head? = some '&' ∧ (escapeChar c).getLast? = some ';' := by
  simp [escapeChar]

/-- The written form of a character has the ends of an entity, or is the character. -/
theorem ends_of_dataChar (c : Char) :
    dataChar c ≠ [] ∧
      ((dataChar c).head? = some '&' ∧ (dataChar c).getLast? = some ';' ∨
        (dataChar c).head? = some c ∧ (dataChar c).getLast? = some c) := by
  by_cases hspecial : c ∈ ['&', '<', '>']
  · obtain ⟨-, hlong, hends⟩ := shape_of_dataChar c hspecial
    rw [dataChar_of_mem hspecial]
    exact ⟨List.ne_nil_of_length_pos (by omega), .inl hends⟩
  · rw [dataChar_of_not_mem hspecial]
    exact ⟨List.cons_ne_nil _ _, .inr ⟨rfl, rfl⟩⟩

/-- Of angles and brackets only those characters are left that are written as they are. -/
theorem mem_of_mem_characterData (hc : c ∈ ['<', '>', '[', ']']) (h : c ∈ characterData text) :
    c ∈ text ∧ c ∉ ['&', '<', '>'] := by
  obtain ⟨x, hx, hmem⟩ := List.mem_flatMap.mp h
  by_cases hspecial : x ∈ ['&', '<', '>']
  · rw [dataChar_of_mem hspecial] at hmem
    exact absurd hmem ((shape_of_dataChar x hspecial).1 c hc)
  · rw [dataChar_of_not_mem hspecial, List.mem_singleton] at hmem
    rw [hmem]
    exact ⟨hx, hspecial⟩

theorem length_le_characterData (text : List Char) : text.length ≤ (characterData text).length := by
  induction text with
  | nil => exact Nat.le_refl 0
  | cons c rest ih =>
    have hone : 1 ≤ (dataChar c).length := by
      by_cases hspecial : c ∈ ['&', '<', '>']
      · rw [dataChar_of_mem hspecial]
        exact Nat.le_of_lt (shape_of_dataChar c hspecial).2.1
      · rw [dataChar_of_not_mem hspecial]
        exact Nat.le_refl 1
    show rest.length + 1 ≤ (dataChar c ++ characterData rest).length
    rw [List.length_append]
    omega

/-- A text is character data as it is only without the characters that are written as entities. -/
theorem characterData_eq_self_iff :
    characterData text = text ↔ ∀ c ∈ ['&', '<', '>'], c ∉ text := by
  induction text with
  | nil => simp [characterData]
  | cons x rest ih =>
    have hcons : characterData (x :: rest) = dataChar x ++ characterData rest := rfl
    by_cases hspecial : x ∈ ['&', '<', '>']
    · refine iff_of_false (fun h => ?_) fun h => h x hspecial List.mem_cons_self
      have hlength := congrArg List.length h
      have hlong := (shape_of_dataChar x hspecial).2.1
      have hrest := length_le_characterData rest
      rw [hcons, dataChar_of_mem hspecial, List.length_append, List.length_cons] at hlength
      omega
    · rw [hcons, dataChar_of_not_mem hspecial, List.singleton_append, List.cons.injEq,
        and_iff_right rfl, ih]
      refine forall₂_congr fun c hc => ?_
      have hne : c ≠ x := fun heq => hspecial (heq ▸ hc)
      rw [List.mem_cons, not_or, and_iff_right hne]

end Paperwork.Markup
