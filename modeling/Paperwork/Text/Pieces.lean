/-!
# Cutting texts at a separator

The separator is looked for literally, from left to right and without overlaps.
-/

namespace Paperwork

/-- What stands before and after the first occurrence of a separator. -/
def splitFirst (separator : List Char) : List Char → Option (List Char × List Char)
  | [] => if separator.isEmpty then some ([], []) else none
  | c :: rest =>
    if separator.isPrefixOf (c :: rest) then some ([], (c :: rest).drop separator.length)
    else (splitFirst separator rest).map fun (a, b) => (c :: a, b)

theorem append_of_splitFirst {separator text a b : List Char}
    (h : splitFirst separator text = some (a, b)) : text = a ++ separator ++ b := by
  induction text generalizing a b with
  | nil =>
    unfold splitFirst at h
    split at h
    · rename_i he
      simp only [List.isEmpty_iff] at he
      simp only [Option.some.injEq, Prod.mk.injEq] at h
      simp [he, ← h.1, ← h.2]
    · simp at h
  | cons c rest ih =>
    unfold splitFirst at h
    split at h
    · rename_i hp
      simp only [Option.some.injEq, Prod.mk.injEq] at h
      obtain ⟨t, ht⟩ := List.isPrefixOf_iff_prefix.1 hp
      simp [← h.1, ← h.2, ← ht]
    · obtain ⟨⟨x, y⟩, hxy, heq⟩ := Option.map_eq_some_iff.1 h
      simp only [Prod.mk.injEq] at heq
      simp [← heq.1, ← heq.2, ih hxy]

/-- The pieces of a text between the occurrences of a separator that is not empty. -/
def splitAll (separator : List Char) (text : List Char) : List (List Char) :=
  if hs : separator = [] then [text]
  else
    match h : splitFirst separator text with
    | none => [text]
    | some (piece, rest) =>
      have : rest.length < text.length := by
        have hlength := congrArg List.length (append_of_splitFirst h)
        have hpos := List.length_pos_iff.2 hs
        rw [List.length_append, List.length_append] at hlength
        omega
      piece :: splitAll separator rest
termination_by text.length

/-- The pieces of a text between the occurrences of a delimiter; without one, its characters. -/
def splitText (delimiter text : String) : List String :=
  if delimiter == "" then text.toList.map String.singleton
  else (splitAll delimiter.toList text.toList).map String.ofList

end Paperwork
