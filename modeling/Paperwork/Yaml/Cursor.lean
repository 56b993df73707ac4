/-!
# Places in a YAML text

A cursor is what is left of a text together with its place. Lines end with any of the five line
breaks; a carriage return and a line feed are one break.
-/

namespace Paperwork.Yaml

/-- What is wrong with a text. -/
inductive Problem where
  | encoding
  | controlCharacter
  | unknownToken
  | missingColon
  | entryNotAllowed
  | keyNotAllowed
  | valueNotAllowed
  | directive
  | tag
  | anchor
  | blockHeader
  | tabIndentation
  | unclosedQuote
  | documentMark
  | escape
  | colonInFlow
  | unexpectedToken
  | undefinedHandle
  | undefinedAnchor
  | manyDocuments
  | noDocument
deriving DecidableEq, Repr

/-- The wording of a problem. -/
def Problem.message : Problem → String
  | encoding => "the text is not UTF-8"
  | controlCharacter => "control characters are not allowed"
  | unknownToken => "found a character that cannot start any token"
  | missingColon => "could not find the expected colon"
  | entryNotAllowed => "block sequence entries are not allowed in this context"
  | keyNotAllowed => "mapping keys are not allowed in this context"
  | valueNotAllowed => "mapping values are not allowed in this context"
  | directive => "found a malformed directive"
  | tag => "found a malformed tag"
  | anchor => "found a malformed anchor"
  | blockHeader => "found a malformed block scalar header"
  | tabIndentation => "found a tab where indentation is expected"
  | unclosedQuote => "found the end of the text inside a quoted scalar"
  | documentMark => "found a document mark inside a quoted scalar"
  | escape => "found an unknown escape sequence"
  | colonInFlow => "found an unexpected colon"
  | unexpectedToken => "did not find the expected node content"
  | undefinedHandle => "found an undefined tag handle"
  | undefinedAnchor => "found an undefined anchor"
  | manyDocuments => "the text holds more than one document"
  | noDocument => "the text holds no document"

/-- A problem and its line. -/
structure SyntaxError where
  problem : Problem
  line : Nat
deriving DecidableEq, Repr

/-- The wording of a fault. -/
def SyntaxError.message (e : SyntaxError) : String :=
  e.problem.message ++ " at line " ++ Nat.repr (e.line + 1)

/-! ## Character classes -/

/-- Next line, line separator and paragraph separator also end a line. -/
def isBreak (c : Char) : Bool :=
  c == '\n' || c == '\r' || c == '\u0085' || c == '\u2028' || c == '\u2029'

def isBlank (c : Char) : Bool := c == ' ' || c == '\t'

/-- The end of the text or a line break. -/
def isBreakOrEnd (c : Option Char) : Bool := c.all isBreak

/-- The end of the text, a line break, a space or a tab. -/
def isBlankOrEnd (c : Option Char) : Bool := c.all fun c => isBlank c || isBreak c

/-- Letters, digits, the hyphen and the underscore. -/
def isWordChar (c : Char) : Bool := c.isAlphanum || c == '-' || c == '_'

/-- The characters that a text may hold. -/
def isAllowed (c : Char) : Bool :=
  c == '\t' || c == '\n' || c == '\r' || (' ' ≤ c && c ≤ '~') || c == '\u0085'
    || ('\u00a0' ≤ c && c ≤ '\ufffd') || 0x10000 ≤ c.toNat

/-! ## Cursors -/

/-- A place in a text: what is left, how many bytes came before, the line and the column. -/
structure Cursor where
  rest : List Char
  index : Nat
  line : Nat
  column : Nat
deriving Repr

namespace Cursor

/-- The start of a text. -/
def start (text : List Char) : Cursor := ⟨text, 0, 0, 0⟩

/-- The next character. -/
def peek? (c : Cursor) : Option Char := c.rest.head?

/-- The character after a number of others. -/
def look? (c : Cursor) (n : Nat) : Option Char := c.rest[n]?

/-- Whether the next character is this one. -/
def sees (c : Cursor) (x : Char) : Bool := c.peek? == some x

/-- The fault of a problem at this place. -/
def fail {α : Type} (c : Cursor) (problem : Problem) : Except SyntaxError α :=
  .error ⟨problem, c.line⟩

/-- Steps over a number of characters of one line. -/
def skip (c : Cursor) (n : Nat) : Cursor :=
  let skipped := c.rest.take n
  ⟨c.rest.drop n, skipped.foldl (· + ·.utf8Size) c.index, c.line, c.column + skipped.length⟩

/-- Steps over a line break. -/
def skipBreak (c : Cursor) : Cursor :=
  match c.rest with
  | '\r' :: '\n' :: rest => ⟨rest, c.index + 2, c.line + 1, 0⟩
  | x :: rest => if isBreak x then ⟨rest, c.index + x.utf8Size, c.line + 1, 0⟩ else c
  | [] => c

/-- The text of a line break: a line feed, unless it is a separator. -/
def breakText (c : Cursor) : List Char :=
  match c.rest with
  | x :: _ => if x == '\u2028' || x == '\u2029' then [x] else if isBreak x then ['\n'] else []
  | [] => []

/-- Steps over the characters of a class; the class must not hold line breaks. -/
def skipWhile (p : Char → Bool) (c : Cursor) : Cursor := c.skip (c.rest.takeWhile p).length

/-- The next characters of a class and the place after them. -/
def span (p : Char → Bool) (c : Cursor) : List Char × Cursor :=
  (c.rest.takeWhile p, c.skipWhile p)

/-- Steps over a comment up to the end of its line. -/
def skipComment (c : Cursor) : Cursor :=
  if c.sees '#' then c.skipWhile (!isBreak ·) else c

/-- Whether a line starts here with three marks and a blank after them. -/
def seesMark (c : Cursor) (mark : Char) : Bool :=
  c.column == 0 && c.rest.take 3 == [mark, mark, mark] && isBlankOrEnd (c.look? 3)

/-- Whether a document starts or ends here. -/
def seesDocumentMark (c : Cursor) : Bool := c.seesMark '-' || c.seesMark '.'

end Cursor

end Paperwork.Yaml
