import Paperwork.Json.Basic

/-!
# JSON text

The compact form has no blanks; the indented form puts every item and member on a line of its own,
two blanks deeper than its container. Only the quote, the backslash and control characters below
the blank are escaped.
-/

namespace Paperwork.Json

/-- Hexadecimal digit of a natural below sixteen. -/
def hexDigit (n : Nat) : Char := Nat.digitChar (n % 16)

/-- The written form of one character of a text. -/
def escapeChar (c : Char) : List Char :=
  if c = '"' then ['\\', '"']
  else if c = '\\' then ['\\', '\\']
  else if ' '.val ≤ c.val then [c]
  else if c = '\n' then ['\\', 'n']
  else if c = '\r' then ['\\', 'r']
  else if c = '\t' then ['\\', 't']
  else if c = '\x08' then ['\\', 'b']
  else if c = '\x0c' then ['\\', 'f']
  else ['\\', 'u', '0', '0', hexDigit (c.toNat / 16), hexDigit c.toNat]

/-- A text in quotes. -/
def quote (s : String) : String :=
  String.ofList ('"' :: s.toList.flatMap escapeChar ++ ['"'])

mutual

/-- The text of a value without blanks. -/
def compact : Json → String
  | null => "null"
  | bool b => if b then "true" else "false"
  | number n => n.text
  | text s => quote s
  | array items => "[" ++ compactItems items ++ "]"
  | object members => "\x7b" ++ compactMembers members ++ "\x7d"

/-- Items separated by commas. -/
def compactItems : List Json → String
  | [] => ""
  | [v] => compact v
  | v :: w :: rest => compact v ++ "," ++ compactItems (w :: rest)

/-- Members separated by commas. -/
def compactMembers : List (String × Json) → String
  | [] => ""
  | [(k, v)] => quote k ++ ":" ++ compact v
  | (k, v) :: m :: rest => quote k ++ ":" ++ compact v ++ "," ++ compactMembers (m :: rest)

end

/-- A line break and the indentation of a level. -/
def newLine (level : Nat) : String := String.ofList ('\n' :: List.replicate (2 * level) ' ')

mutual

/-- The text of a value at a level of indentation. -/
def indented (level : Nat) : Json → String
  | array [] => "[]"
  | array (v :: rest) =>
    "[" ++ newLine (level + 1) ++ indented (level + 1) v ++ indentedItems (level + 1) rest
      ++ newLine level ++ "]"
  | object [] => "\x7b\x7d"
  | object ((k, v) :: rest) =>
    "\x7b" ++ newLine (level + 1) ++ quote k ++ ": " ++ indented (level + 1) v
      ++ indentedMembers (level + 1) rest ++ newLine level ++ "\x7d"
  | null => "null"
  | bool b => if b then "true" else "false"
  | number n => n.text
  | text s => quote s

/-- Further items, each after a comma on a new line. -/
def indentedItems (level : Nat) : List Json → String
  | [] => ""
  | v :: rest => "," ++ newLine level ++ indented level v ++ indentedItems level rest

/-- Further members, each after a comma on a new line. -/
def indentedMembers (level : Nat) : List (String × Json) → String
  | [] => ""
  | (k, v) :: rest =>
    "," ++ newLine level ++ quote k ++ ": " ++ indented level v ++ indentedMembers level rest

end

/-- The text of a value with one item or member a line. -/
def pretty (v : Json) : String := indented 0 v

end Paperwork.Json
