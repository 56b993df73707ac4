import Paperwork.Text.Blank
import Paperwork.Value
import Paperwork.Word.Markup

/-!
# Placeholders

A placeholder starts at a start delimiter that an end delimiter follows, and ends at the nearest
one. Its name may be cut by tags; they are kept behind the value that takes its place.
-/

namespace Paperwork

/-- The texts around the name of a placeholder. -/
structure Delimiters where
  start : String
  stop : String
deriving DecidableEq, Repr

/-- The delimiters of documents. -/
def Delimiters.brackets : Delimiters := ⟨"[[", "]]"⟩

/-- A text cut at its placeholders: what stands before each and inside of it, then what is left. -/
structure Cut where
  pieces : List (List Char × List Char)
  last : List Char

namespace Delimiters

/-- What stands before the first placeholder, inside of it, and behind it. -/
def first? (d : Delimiters) (text : List Char) : Option (List Char × List Char × List Char) := do
  let (before, behind) ← splitFirst d.start.toList text
  let (inside, rest) ← splitFirst d.stop.toList behind
  some (before, inside, rest)

/-- Whether a placeholder may be nothing at all. -/
def areEmpty (d : Delimiters) : Bool := d.start.toList.isEmpty && d.stop.toList.isEmpty

theorem append_of_first? {d : Delimiters} {text before inside rest : List Char}
    (h : d.first? text = some (before, inside, rest)) :
    text = before ++ d.start.toList ++ inside ++ d.stop.toList ++ rest := by
  unfold first? at h
  obtain ⟨⟨a, b⟩, hab, h⟩ := Option.bind_eq_some_iff.1 h
  obtain ⟨⟨c, e⟩, hce, h⟩ := Option.bind_eq_some_iff.1 h
  simp only [Option.some.injEq, Prod.mk.injEq] at h
  obtain ⟨rfl, rfl, rfl⟩ := h
  rw [append_of_splitFirst hab, append_of_splitFirst hce]
  simp

theorem length_pos_of_areEmpty {d : Delimiters} (h : d.areEmpty = false) :
    0 < d.start.toList.length + d.stop.toList.length := by
  by_cases hs : d.start.toList = []
  · have he : d.stop.toList ≠ [] := fun he => by simp [areEmpty, hs, he] at h
    have := List.length_pos_iff.2 he
    omega
  · have := List.length_pos_iff.2 hs
    omega

theorem length_lt_of_first? {d : Delimiters} (hd : d.areEmpty = false)
    {text before inside rest : List Char} (h : d.first? text = some (before, inside, rest)) :
    rest.length < text.length := by
  have hlen := congrArg List.length (append_of_first? h)
  simp only [List.length_append] at hlen
  have := length_pos_of_areEmpty hd
  omega

/-- Cuts a text at placeholders that are not empty. -/
def cutAll (d : Delimiters) (hd : d.areEmpty = false) (text : List Char) : Cut :=
  match h : d.first? text with
  | none => ⟨[], text⟩
  | some (before, inside, rest) =>
    have := length_lt_of_first? hd h
    let cut := cutAll d hd rest
    ⟨(before, inside) :: cut.pieces, cut.last⟩
termination_by text.length

/--
Cuts a text at its placeholders. With no delimiters an empty one stands at the start and behind each
character.
-/
def cut (d : Delimiters) (text : List Char) : Cut :=
  if hd : d.areEmpty = false then d.cutAll hd text
  else ⟨([], []) :: text.map fun c => ([c], []), []⟩

end Delimiters

namespace Placeholder

/-- The name of the field that the inside of a placeholder stands for. -/
def fieldName (inside : List Char) : String :=
  String.ofList (trim (Markup.withoutTags inside))

/-- What takes the place of a placeholder; a field without a value is a failure with its name. -/
def expand (fields : Fields) (inside : List Char) : Except String (List Char) :=
  let name := fieldName inside
  match fields.get? name with
  | some v => .ok (Markup.escape v.display.toList ++ (Markup.tags inside).flatten)
  | none => .error name

/-- Expands placeholders in turn. -/
def expandAll (fields : Fields) : List (List Char × List Char) → Except String (List Char)
  | [] => .ok []
  | (before, inside) :: rest => do
    let value ← expand fields inside
    let more ← expandAll fields rest
    pure (before ++ value ++ more)

/-- A text with its placeholders replaced by values; fails at the first one without a value. -/
def substitute (d : Delimiters) (fields : Fields) (text : List Char) :
    Except String (List Char) := do
  let cut := d.cut text
  let filled ← expandAll fields cut.pieces
  pure (filled ++ cut.last)

end Placeholder

end Paperwork
