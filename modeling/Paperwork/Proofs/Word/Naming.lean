import Paperwork.Proofs.Text.Blank
import Paperwork.Proofs.Word.Escaping
import Paperwork.Proofs.Word.Substitution

/-!
# Names in placeholders

The name of a placeholder is what is left of its inside without tags and outer blanks, so however
tags cut a name it stands for the same field, and they are all kept behind the value
(`substitute_spelled`). Entities are no tags: a name that is written with entities is looked up with
them (`substitute_looks_up_as_written`), which finds another field than its own, or none
(`ampersand_is_unresolved`).
-/

namespace Paperwork

namespace Markup

variable {text rest : List Char}

theorem withoutTags_of_none (h : firstTag? text = none) : withoutTags text = text := by
  unfold withoutTags
  rw [cutTags_of_none h]
  rfl

theorem withoutTags_of_some {before tag : List Char}
    (h : firstTag? text = some (before, tag, rest)) :
    withoutTags text = before ++ withoutTags rest := by
  unfold withoutTags
  rw [cutTags_of_some h]
  show ((cutTags rest).1.flatMap _ |> (before ++ ·)) ++ _ = _
  rw [List.append_assoc]

theorem withoutTags_append_of_not_mem {a : List Char} (h : '<' ∉ a) (b : List Char) :
    withoutTags (a ++ b) = a ++ withoutTags b := by
  have hfirst := firstTag?_append_of_not_mem (b := b) h
  cases hb : firstTag? b with
  | none => rw [withoutTags_of_none hb, withoutTags_of_none (by rw [hfirst, hb]; rfl)]
  | some cut =>
    rw [hb] at hfirst
    rw [withoutTags_of_some hb, withoutTags_of_some hfirst, List.append_assoc]

end Markup

namespace Placeholder

/-! ## Names cut by tags -/

/-- A piece of a name in a document: one of its characters, or a tag without brackets. -/
inductive Piece where
  | letter (c : Char)
  | tag (body : List Char) (plain : ∀ c ∈ ['>', '[', ']'], c ∉ body)

namespace Piece

/-- How a piece is written. -/
def written : Piece → List Char
  | letter c => [c]
  | tag body _ => '<' :: body ++ ['>']

/-- The character of the name. -/
def letter? : Piece → Option Char
  | letter c => some c
  | tag _ _ => none

/-- The tag between characters of the name. -/
def tag? : Piece → Option (List Char)
  | letter _ => none
  | tag body _ => some ('<' :: body ++ ['>'])

end Piece

variable {pieces : List Piece} {fields : Fields} {before behind : List Char}

/-- What stands between the delimiters. -/
def written (pieces : List Piece) : List Char := pieces.flatMap Piece.written

/-- The characters without the tags. -/
def letters (pieces : List Piece) : List Char := pieces.filterMap Piece.letter?

/-- The tags in their order. -/
def inserted (pieces : List Piece) : List (List Char) := pieces.filterMap Piece.tag?

theorem firstTag?_tag {body : List Char} (h : '>' ∉ body) (rest : List Char) :
    Markup.firstTag? ('<' :: body ++ ['>'] ++ rest) = some ([], '<' :: body ++ ['>'], rest) :=
  Markup.firstTag?_eq_some_iff.mpr ⟨rfl, List.not_mem_nil, body, rfl, h⟩

/-- The tags of a spelled name are those that were inserted, and without them the name is left. -/
theorem tags_written (h : '<' ∉ letters pieces) :
    Markup.tags (written pieces) = inserted pieces ∧
      Markup.withoutTags (written pieces) = letters pieces := by
  induction pieces with
  | nil => exact ⟨Markup.tags_of_none rfl, Markup.withoutTags_of_none rfl⟩
  | cons piece rest ih =>
    cases piece with
    | letter c =>
      obtain ⟨hc, hrest⟩ := not_or.mp (mt List.mem_cons.mpr h)
      obtain ⟨htags, hletters⟩ := ih hrest
      have hone : '<' ∉ [c] := by simpa using hc
      show Markup.tags ([c] ++ written rest) = inserted rest ∧
        Markup.withoutTags ([c] ++ written rest) = [c] ++ letters rest
      rw [Markup.tags_append_of_not_mem hone, Markup.withoutTags_append_of_not_mem hone, htags, hletters]
      exact ⟨rfl, rfl⟩
    | tag body plain =>
      obtain ⟨htags, hletters⟩ := ih h
      have hfirst := firstTag?_tag (plain '>' (by decide)) (written rest)
      show Markup.tags ('<' :: body ++ ['>'] ++ written rest) = _ :: inserted rest ∧
        Markup.withoutTags ('<' :: body ++ ['>'] ++ written rest) = letters rest
      rw [Markup.tags_of_some hfirst, Markup.withoutTags_of_some hfirst, htags, hletters]
      exact ⟨rfl, rfl⟩

/-- A bracket in a spelled name is one of its characters. -/
theorem mem_letters_of_mem_written {c : Char} (hc : c ∈ ['[', ']']) (h : c ∈ written pieces) :
    c ∈ letters pieces := by
  have hbracket : ∀ x ∈ ['[', ']'], x ≠ '<' ∧ x ≠ '>' ∧ x ∈ ['>', '[', ']'] := by simp
  obtain ⟨hopen, hclose, hplain⟩ := hbracket c hc
  obtain ⟨piece, hpiece, hmem⟩ := List.mem_flatMap.mp h
  refine List.mem_filterMap.mpr ⟨piece, hpiece, ?_⟩
  cases piece with
  | letter x =>
    rw [List.mem_singleton.mp hmem]
    rfl
  | tag body plain =>
    have hbody := plain c hplain
    simp [Piece.written, hopen, hclose, hbody] at hmem

theorem not_blank_of_mem : ∀ c ∈ ['<', '>', '[', ']'], isBlankChar c = false := by
  simp [isBlankChar]

/-- Between brackets there is nothing but the inside of one placeholder. -/
theorem startsNowhere_stop {inside : List Char} (h : ']' ∉ inside) :
    StartsNowhere Delimiters.brackets.stop.toList (inside ++ Delimiters.brackets.stop.toList)
      inside.length :=
  startsNowhere_of_not_mem h _

theorem substitute_of_not_mem (h : '[' ∉ before) : substitute .brackets fields before = .ok before := by
  unfold substitute
  rw [Delimiters.cut_of_not_mem rfl h]
  rfl

/--
However a name is cut by tags, and whatever blanks stand around it, the placeholder stands for the
field of this name, and the tags are kept behind its value in their order. So two spellings of a
placeholder differ only in the tags that they keep.
-/
theorem substitute_spelled {n : String} {v : Value} {lead trail : List Char}
    (hvalue : fields.get? n = some v) (hname : ∀ c ∈ ['<', '>', '[', ']'], c ∉ n.toList)
    (houter : HasNoOuterBlanks n.toList) (hlead : ∀ c ∈ lead, isBlankChar c)
    (htrail : ∀ c ∈ trail, isBlankChar c) (hletters : letters pieces = lead ++ n.toList ++ trail)
    (hbefore : ∀ c ∈ ['[', ']'], c ∉ before) (hbehind : ∀ c ∈ ['[', ']'], c ∉ behind) :
    fieldName (written pieces) = n ∧
      substitute .brackets fields
          (before ++ "[[".toList ++ written pieces ++ "]]".toList ++ behind) =
        .ok (before ++ (Markup.escape v.display.toList ++ (inserted pieces).flatten) ++ behind) := by
  have hplain : ∀ c ∈ ['<', '>', '[', ']'], c ∉ letters pieces := by
    intro c hc hmem
    have hblank : ∀ {blanks : List Char}, (∀ x ∈ blanks, isBlankChar x) → c ∉ blanks := by
      intro blanks hblanks hmem
      exact absurd (hblanks c hmem) (by simp [not_blank_of_mem c hc])
    rw [hletters, List.mem_append, List.mem_append] at hmem
    exact hmem.elim (fun h => h.elim (hblank hlead) (hname c hc)) (hblank htrail)
  obtain ⟨htags, hwithout⟩ := tags_written (hplain '<' (by decide))
  have hfield : fieldName (written pieces) = n := by
    rw [fieldName, hwithout, hletters, trim_surrounded houter hlead htrail, String.ofList_toList]
  have hstop : ']' ∉ written pieces := fun hmem =>
    hplain ']' (by decide) (mem_letters_of_mem_written (by decide) hmem)
  have hexpand : expand fields (written pieces) =
      .ok (Markup.escape v.display.toList ++ (inserted pieces).flatten) := by
    simp only [expand, hfield, hvalue, htags]
  refine ⟨hfield, ?_⟩
  show substitute .brackets fields (before ++ Delimiters.brackets.start.toList ++ written pieces ++
    Delimiters.brackets.stop.toList ++ behind) = _
  rw [substitute_around (by decide) (Delimiters.isClosed_of_not_mem rfl (hbefore '[' (by decide)))
    (startsNowhere_stop hstop), substitute_of_not_mem (hbefore '[' (by decide)),
    substitute_of_not_mem (hbehind '[' (by decide)), hexpand]
  rfl

/-- The pieces of a name that is cut in half, with a blank and another tag behind it. -/
def halvedName : List Piece :=
  [.letter ' ', .letter 'n', .letter 'a', .tag "/w:t".toList (by simp), .tag "w:t".toList (by simp),
    .letter 'm', .letter 'e', .letter '\t', .tag "w:tab <".toList (by simp)]

theorem halvedName_is_resolved :
    written halvedName = " na</w:t><w:t>me\t<w:tab <>".toList ∧
      substitute .brackets (.ofList [("name", .text "Ada & Co")])
          "<w:t>[[ na</w:t><w:t>me\t<w:tab <>]]</w:t>".toList =
        .ok "<w:t>Ada &amp; Co</w:t><w:t><w:tab <></w:t>".toList := by
  have hvalue : (.ofList [("name", .text "Ada & Co")] : Fields).get? "name" = some (.text "Ada & Co") :=
    rfl
  have hlead : ∀ c ∈ [' '], isBlankChar c := by simp [isBlankChar]
  have htrail : ∀ c ∈ ['\t'], isBlankChar c := by simp [isBlankChar]
  have hletters : letters halvedName = [' '] ++ "name".toList ++ ['\t'] := by decide
  have hbefore : ∀ c ∈ ['[', ']'], c ∉ "<w:t>".toList := by simp
  have hbehind : ∀ c ∈ ['[', ']'], c ∉ "</w:t>".toList := by simp
  have hname : ∀ c ∈ ['<', '>', '[', ']'], c ∉ "name".toList := by simp
  have houter : HasNoOuterBlanks "name".toList := ⟨by simp [isBlankChar], by simp [isBlankChar]⟩
  obtain ⟨-, hspelled⟩ := substitute_spelled hvalue hname houter hlead htrail hletters hbefore hbehind
  exact ⟨by decide, hspelled⟩

/-! ## Names as character data -/

section CharacterData

open Markup

variable {text : List Char}

theorem tags_characterData (text : List Char) :
    tags (characterData text) = [] ∧ withoutTags (characterData text) = characterData text := by
  have hopen : '<' ∉ characterData text := fun hmem =>
    (mem_of_mem_characterData (by decide) hmem).2 (by decide)
  have hfirst : firstTag? (characterData text) = none := by
    refine firstTag?_eq_none_iff.mpr fun before behind htext _ _ => hopen ?_
    rw [htext]
    exact List.mem_append_right before List.mem_cons_self
  exact ⟨tags_of_none hfirst, withoutTags_of_none hfirst⟩

/-- An entity is no blank, so character data has outer blanks only where the text has them. -/
theorem hasNoOuterBlanks_characterData (h : HasNoOuterBlanks text) :
    HasNoOuterBlanks (characterData text) := by
  constructor
  · intro x hx
    cases text with
    | nil => cases hx
    | cons c rest =>
      obtain ⟨hne, hcases⟩ := ends_of_dataChar c
      change (dataChar c ++ characterData rest).head? = some x at hx
      rw [List.head?_append_of_ne_nil _ hne] at hx
      rcases hcases with ⟨hhead, -⟩ | ⟨hhead, -⟩
      · rw [hhead] at hx
        cases hx
        decide
      · exact h.head x (hhead.symm.trans hx)
  · intro x hx
    rcases List.eq_nil_or_concat text with rfl | ⟨rest, c, rfl⟩
    · cases hx
    · obtain ⟨hne, hcases⟩ := ends_of_dataChar c
      have hconcat : characterData (rest.concat c) = characterData rest ++ dataChar c := by
        simp [characterData]
      rw [hconcat, List.getLast?_append_of_ne_nil _ hne] at hx
      rcases hcases with ⟨-, hlast⟩ | ⟨-, hlast⟩
      · rw [hlast] at hx
        cases hx
        decide
      · refine h.last x ?_
        rw [List.concat_eq_append, List.getLast?_concat]
        exact hlast.symm.trans hx

/-- The value of a field as it is written in a document; a missing one is a failure with its name. -/
def valueOf (fields : Fields) (name : String) : Except String (List Char) :=
  match fields.get? name with
  | some v => .ok (escape v.display.toList)
  | none => .error name

/-- The name under which a field is looked up when its name stands in a document. -/
def writtenName (n : String) : String := String.ofList (characterData n.toList)

theorem writtenName_eq_self_iff {n : String} :
    writtenName n = n ↔ ∀ c ∈ ['&', '<', '>'], c ∉ n.toList := by
  rw [← characterData_eq_self_iff, writtenName]
  constructor
  · intro h
    rw [← String.toList_inj, String.toList_ofList] at h
    exact h
  · intro h
    rw [h, String.ofList_toList]

theorem expand_characterData {n : String} (houter : HasNoOuterBlanks n.toList) :
    expand fields (characterData n.toList) = valueOf fields (writtenName n) := by
  obtain ⟨htags, hwithout⟩ := tags_characterData n.toList
  have htrim : trim (characterData n.toList) = characterData n.toList := by
    have hnone : ∀ c ∈ ([] : List Char), isBlankChar c := by simp
    simpa using trim_surrounded (hasNoOuterBlanks_characterData houter) hnone hnone
  have hfield : fieldName (characterData n.toList) = writtenName n := by
    rw [fieldName, hwithout, htrim, writtenName]
  simp only [expand, hfield, htags, List.flatten_nil, List.append_nil]
  rfl

/--
A placeholder with the name of a field as character data stands for the field of this name as long as
no character of it is written as an entity. Otherwise it stands for the field whose name has the
entities in it, and fails with this name if there is no such field.
-/
theorem substitute_looks_up_as_written {n : String} (hname : ∀ c ∈ ['[', ']'], c ∉ n.toList)
    (houter : HasNoOuterBlanks n.toList) (hclosed : Delimiters.brackets.IsClosed before) :
    (writtenName n = n ↔ ∀ c ∈ ['&', '<', '>'], c ∉ n.toList) ∧
      substitute .brackets fields
          (before ++ "[[".toList ++ characterData n.toList ++ "]]".toList ++ behind) = (do
        let filled ← substitute .brackets fields before
        let value ← valueOf fields (writtenName n)
        let more ← substitute .brackets fields behind
        pure (filled ++ value ++ more)) := by
  have hstop : ']' ∉ characterData n.toList := fun hmem =>
    hname ']' (by decide) (mem_of_mem_characterData (by decide) hmem).1
  refine ⟨writtenName_eq_self_iff, ?_⟩
  show substitute .brackets fields (before ++ Delimiters.brackets.start.toList ++
    characterData n.toList ++ Delimiters.brackets.stop.toList ++ behind) = _
  rw [substitute_around (by decide) hclosed (startsNowhere_stop hstop), expand_characterData houter]

/-- Of two fields the one whose name has the entity in it is found, behind another placeholder. -/
theorem entityName_is_looked_up :
    let fields : Fields := .ofList [("to", .text "Ada"), ("a<b", .text "less"), ("a&lt;b", .text "more")]
    Delimiters.brackets.IsClosed "Dear [[to]], ".toList ∧ characterData "a<b".toList = "a&lt;b".toList ∧
      substitute .brackets fields "Dear [[to]], [[a&lt;b]] [[to]]".toList =
        .ok "Dear Ada, more Ada".toList := by
  intro fields
  have hclosed : Delimiters.brackets.IsClosed "Dear [[to]], ".toList := by
    have hlast : (Delimiters.brackets.cut "Dear [[to]], ".toList).last = ", ".toList := by
      decide +kernel
    rw [Delimiters.IsClosed, hlast]
    exact startsNowhere_of_not_mem (by decide) _
  have hname : ∀ c ∈ ['[', ']'], c ∉ "a<b".toList := by simp
  have houter : HasNoOuterBlanks "a<b".toList := ⟨by simp [isBlankChar], by simp [isBlankChar]⟩
  obtain ⟨-, hfilled⟩ := @substitute_looks_up_as_written fields _ " [[to]]".toList "a<b" hname houter
    hclosed
  refine ⟨hclosed, by decide, hfilled.trans ?_⟩
  decide +kernel

/-- A field with an ampersand in its name is not found where its name stands as character data. -/
theorem ampersand_is_unresolved :
    let fields : Fields := .ofList [("R&D", .text "Ada")]
    fields.contains "R&D" ∧ HasNoOuterBlanks "R&D".toList ∧ (∀ c ∈ ['[', ']'], c ∉ "R&D".toList) ∧
      characterData "R&D".toList = "R&amp;D".toList ∧
      substitute .brackets fields "<w:t>[[R&amp;D]]</w:t>".toList = .error "R&amp;D" := by
  intro fields
  have houter : HasNoOuterBlanks "R&D".toList := ⟨by simp [isBlankChar], by simp [isBlankChar]⟩
  exact ⟨by decide, houter, by simp, by decide, by decide +kernel⟩

end CharacterData

end Placeholder

end Paperwork
