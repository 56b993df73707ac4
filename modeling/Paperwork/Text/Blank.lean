/-!
# Blanks

The characters that count as blank in Unicode, and texts without the blanks around them.
-/

namespace Paperwork

/-- Whether a character is a space, a line break or another blank of Unicode. -/
def isBlankChar (c : Char) : Bool :=
  ('\t' ≤ c && c ≤ '\r') || c == ' ' || c == '\u0085' || c == '\u00a0' || c == '\u1680'
    || ('\u2000' ≤ c && c ≤ '\u200a') || c == '\u2028' || c == '\u2029' || c == '\u202f'
    || c == '\u205f' || c == '\u3000'

/-- A text without the blanks at its start. -/
def trimLeft (text : List Char) : List Char := text.dropWhile isBlankChar

/-- A text without the blanks at both ends. -/
def trim (text : List Char) : List Char := (trimLeft (trimLeft text).reverse).reverse

/-- Whether a text holds nothing but blanks. -/
def isBlankText (s : String) : Bool := s.toList.all isBlankChar

end Paperwork
