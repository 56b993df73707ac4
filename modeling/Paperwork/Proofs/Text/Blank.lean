import Mathlib.Data.List.Basic
import Paperwork.Text.Blank

/-!
# Texts between blanks

Blanks around a text are cut off, and a text without any at its ends is left as it is
(`trim_surrounded`).
-/

namespace Paperwork

variable {text lead trail : List Char}

/-- A text neither starts nor ends with a blank. -/
structure HasNoOuterBlanks (text : List Char) : Prop where
  head : ∀ c, text.head? = some c → isBlankChar c = false
  last : ∀ c, text.getLast? = some c → isBlankChar c = false

theorem trimLeft_of_head (h : ∀ c, text.head? = some c → isBlankChar c = false) :
    trimLeft text = text := by
  unfold trimLeft
  cases text with
  | nil => rfl
  | cons c rest => rw [List.dropWhile_cons_of_neg (by simp [h c rfl])]

theorem trimLeft_append (h : ∀ c ∈ lead, isBlankChar c) (text : List Char) :
    trimLeft (lead ++ text) = trimLeft text := by
  unfold trimLeft
  exact List.dropWhile_append_of_pos h

/-- A text without outer blanks is what is left of it between blanks. -/
theorem trim_surrounded (htext : HasNoOuterBlanks text) (hlead : ∀ c ∈ lead, isBlankChar c)
    (htrail : ∀ c ∈ trail, isBlankChar c) : trim (lead ++ text ++ trail) = text := by
  unfold trim
  rw [List.append_assoc, trimLeft_append hlead]
  by_cases hnil : text = []
  · rw [hnil, List.nil_append, ← List.append_nil trail, trimLeft_append htrail]
    rfl
  · have hhead : trimLeft (text ++ trail) = text ++ trail := by
      refine trimLeft_of_head fun c hc => htext.head c ?_
      rw [List.head?_append_of_ne_nil _ hnil] at hc
      exact hc
    have hlast : trimLeft text.reverse = text.reverse := by
      refine trimLeft_of_head fun c hc => htext.last c ?_
      rw [List.head?_reverse] at hc
      exact hc
    rw [hhead, List.reverse_append, trimLeft_append, hlast, List.reverse_reverse]
    simpa using htrail

end Paperwork
