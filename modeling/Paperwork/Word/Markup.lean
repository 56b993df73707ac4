import Paperwork.Text.Pieces

/-!
# Markup

Values are escaped before they become part of a markup text. A tag runs from an opening angle
bracket to the nearest closing one.
-/

namespace Paperwork.Markup

/-- The written form of a character. -/
def escapeChar (c : Char) : List Char :=
  if c = '&' then ['&', 'a', 'm', 'p', ';']
  else if c = '<' then ['&', 'l', 't', ';']
  else if c = '>' then ['&', 'g', 't', ';']
  else if c = '"' then ['&', 'q', 'u', 'o', 't', ';']
  else if c = '\'' then ['&', 'a', 'p', 'o', 's', ';']
  else [c]

/-- A text with the characters escaped that markup gives a meaning. -/
def escape (text : List Char) : List Char := text.flatMap escapeChar

/-- What stands before the first tag, the tag, and what stands behind it. -/
def firstTag? (text : List Char) : Option (List Char × List Char × List Char) := do
  let (before, behind) ← splitFirst ['<'] text
  let (inside, rest) ← splitFirst ['>'] behind
  some (before, '<' :: inside ++ ['>'], rest)

theorem append_of_firstTag? {text before tag rest : List Char}
    (h : firstTag? text = some (before, tag, rest)) :
    text = before ++ tag ++ rest ∧ tag ≠ [] := by
  unfold firstTag? at h
  obtain ⟨⟨a, b⟩, hab, h⟩ := Option.bind_eq_some_iff.1 h
  obtain ⟨⟨c, d⟩, hcd, h⟩ := Option.bind_eq_some_iff.1 h
  simp only [Option.some.injEq, Prod.mk.injEq] at h
  obtain ⟨rfl, rfl, rfl⟩ := h
  refine ⟨?_, by simp⟩
  rw [append_of_splitFirst hab, append_of_splitFirst hcd]
  simp

/-- A text cut at its tags: what stands before each tag and the tag, then what is left. -/
def cutTags (text : List Char) : List (List Char × List Char) × List Char :=
  match h : firstTag? text with
  | none => ([], text)
  | some (before, tag, rest) =>
    have : rest.length < text.length := by
      obtain ⟨rfl, ht⟩ := append_of_firstTag? h
      have := List.length_pos_iff.2 ht
      simp only [List.length_append]
      omega
    let (more, last) := cutTags rest
    ((before, tag) :: more, last)
termination_by text.length

/-- The tags of a text. -/
def tags (text : List Char) : List (List Char) := (cutTags text).1.map (·.2)

/-- A text without its tags. -/
def withoutTags (text : List Char) : List Char :=
  let (cut, last) := cutTags text
  cut.flatMap (·.1) ++ last

end Paperwork.Markup
