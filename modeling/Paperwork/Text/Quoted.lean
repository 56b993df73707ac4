import Paperwork.Unicode.Text

/-!
# Texts between quotes

The written form shows every character that prints as it is. Quotes, backslashes and line breaks
have escapes of two characters; what does not print, can be ignored or joins with the character
before it is written as its code.
-/

namespace Paperwork.Text

/-- The escape of a code in hexadecimal digits. -/
def codeEscape (c : Char) : String :=
  "\\u\x7b" ++ String.ofList (Nat.toDigits 16 c.toNat) ++ "\x7d"

/-- The written form of a character, given which code points from 128 on do not print. -/
def escaped (unprinted : Unicode.CodeSet) (c : Char) : String :=
  if c == '"' then "\\\""
  else if c == '\\' then "\\\\"
  else if c == '\n' then "\\n"
  else if c == '\r' then "\\r"
  else if c == '\t' then "\\t"
  else if c == '\x00' then "\\0"
  else if ' ' ≤ c && c ≤ '~' then c.toString
  else if c.val < 128 || unprinted.contains c.toNat then codeEscape c
  else c.toString

/-- The written form of a text without the quotes around it. -/
def quotedInner (s : String) : String :=
  let unprinted := if s.toList.all fun c => c.val < 128 then .empty else Unicode.unprintedCodes
  "".intercalate (s.toList.map (escaped unprinted))

/-- The written form of a text. -/
def quoted (s : String) : String := "\"" ++ quotedInner s ++ "\""

end Paperwork.Text
