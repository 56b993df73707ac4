import Paperwork.Yaml.Cursor

/-!
# The texts of scalars

A scalar is plain, quoted or a block. Line breaks inside of a plain or quoted scalar are folded: one
break becomes a space, each further one a line feed. A block keeps its lines, or folds them.
-/

namespace Paperwork.Yaml

/-! ## Folding -/

/-- The blanks between two words: spaces of one line, or breaks after the first one. -/
structure Blanks where
  spaces : List Char := []
  folded : Bool := false
  first : List Char := []
  further : List Char := []

namespace Blanks

/-- What the blanks contribute to a scalar. -/
def text (b : Blanks) : List Char :=
  if !b.folded then b.spaces
  else if b.first == ['\n'] then (if b.further.isEmpty then [' '] else b.further)
  else b.first ++ b.further

/-- Adds a line break. -/
def addBreak (b : Blanks) (text : List Char) : Blanks :=
  if b.folded then { b with further := b.further ++ text }
  else { b with spaces := [], folded := true, first := text }

/-- Adds a space or a tab. -/
def addSpace (b : Blanks) (x : Char) : Blanks :=
  if b.folded then b else { b with spaces := b.spaces ++ [x] }

end Blanks

/-- Reads blanks and breaks. On a further line no tab may stand before the given column. -/
def readBlanks (indent : Nat) : Nat → Cursor → Blanks → Except SyntaxError (Blanks × Cursor)
  | 0, c, b => .ok (b, c)
  | fuel + 1, c, b =>
    match c.peek? with
    | none => .ok (b, c)
    | some x =>
      if isBreak x then readBlanks indent fuel c.skipBreak (b.addBreak c.breakText)
      else if !isBlank x then .ok (b, c)
      else if b.folded && c.column < indent && x == '\t' then c.fail .tabIndentation
      else readBlanks indent fuel (c.skip 1) (b.addSpace x)

/-! ## Plain scalars -/

/-- Whether a plain scalar ends before the next character, a colon with a blank or a flow mark. -/
def endsPlain (inFlow : Bool) (c : Cursor) (x : Char) : Bool :=
  (x == ':' && isBlankOrEnd (c.look? 1))
    || (inFlow && (x == ',' || x == '[' || x == ']' || x == '\x7b' || x == '\x7d'))

/-- In a flow collection a colon must not be followed by one of its marks. -/
def isStrayColon (inFlow : Bool) (c : Cursor) (x : Char) : Bool :=
  inFlow && x == ':' && (c.look? 1).any fun y =>
    y == ',' || y == '?' || y == '[' || y == ']' || y == '\x7b' || y == '\x7d'

/--
Reads a plain scalar whose further lines stand at a column or behind it. The text comes last
character first; `fresh` says that blanks came just before, and the result tells whether the scalar
ended after a line break.
-/
def readPlain (inFlow : Bool) (indent : Nat) : Nat → Cursor → (fresh : Bool) → List Char →
    Blanks → Except SyntaxError (List Char × Bool × Cursor)
  | 0, c, _, text, b => .ok (text, b.folded, c)
  | fuel + 1, c, fresh, text, b =>
    if fresh && (c.seesDocumentMark || c.sees '#') then .ok (text, b.folded, c)
    else match c.peek? with
      | none => .ok (text, b.folded, c)
      | some x =>
        if isBlank x || isBreak x then do
          let (b, c) ← readBlanks indent (c.rest.length + 1) c b
          if !inFlow && c.column < indent then .ok (text, b.folded, c)
          else readPlain inFlow indent fuel c true text b
        else if isStrayColon inFlow c x then c.fail .colonInFlow
        else if endsPlain inFlow c x then .ok (text, b.folded, c)
        else readPlain inFlow indent fuel (c.skip 1) false (x :: (b.text.reverse ++ text)) {}

/-! ## Quoted scalars -/

/-- The character that a letter after a backslash stands for. -/
def escapeChar? (x : Char) : Option Char :=
  match x with
  | '0' => some '\x00'
  | 'a' => some '\x07'
  | 'b' => some '\x08'
  | 't' | '\t' => some '\t'
  | 'n' => some '\n'
  | 'v' => some '\x0b'
  | 'f' => some '\x0c'
  | 'r' => some '\r'
  | 'e' => some '\x1b'
  | ' ' => some ' '
  | '"' => some '"'
  | '/' => some '/'
  | '\\' => some '\\'
  | 'N' => some '\u0085'
  | '_' => some '\u00a0'
  | 'L' => some '\u2028'
  | 'P' => some '\u2029'
  | _ => none

/-- The number of hexadecimal digits after a letter. -/
def escapeDigits? (x : Char) : Option Nat :=
  match x with
  | 'x' => some 2
  | 'u' => some 4
  | 'U' => some 8
  | _ => none

def hexValue? (x : Char) : Option Nat :=
  if x.isDigit then some (x.toNat - 48)
  else if 'a' ≤ x && x ≤ 'f' then some (x.toNat - 87)
  else if 'A' ≤ x && x ≤ 'F' then some (x.toNat - 55)
  else none

/-- The number that hexadecimal digits spell. -/
def hexNumber? (digits : List Char) : Option Nat :=
  digits.foldlM (fun n x => (hexValue? x).map (16 * n + ·)) 0

/-- The character of a code point, if there is one. -/
def charOfCode? (code : Nat) : Option Char :=
  if h : code.isValidChar then some (Char.ofNatAux code h) else none

/-- Reads an escape sequence behind its backslash. -/
def readEscape (c : Cursor) : Except SyntaxError (Char × Cursor) :=
  match c.look? 1 with
  | none => c.fail .escape
  | some x =>
    match escapeChar? x, escapeDigits? x with
    | some y, _ => .ok (y, c.skip 2)
    | none, none => c.fail .escape
    | none, some n =>
      let digits := (c.rest.drop 2).take n
      if digits.length < n then c.fail .escape
      else match (hexNumber? digits).bind charOfCode? with
        | some y => .ok (y, c.skip (2 + n))
        | none => c.fail .escape

/-- Reads a quoted scalar up to its closing quote. The text comes last character first. -/
def readQuoted (quote : Char) : Nat → Cursor → (fresh : Bool) → List Char →
    Except SyntaxError (List Char × Cursor)
  | 0, c, _, _ => c.fail .unclosedQuote
  | fuel + 1, c, fresh, text =>
    if fresh && c.seesDocumentMark then c.fail .documentMark
    else match c.peek? with
      | none => c.fail .unclosedQuote
      | some x =>
        if isBlank x || isBreak x then do
          let (b, c) ← readBlanks 0 (c.rest.length + 1) c {}
          readQuoted quote fuel c true (b.text.reverse ++ text)
        else if x == quote then
          if quote == '\'' && c.look? 1 == some '\'' then
            readQuoted quote fuel (c.skip 2) false ('\'' :: text)
          else .ok (text, c.skip 1)
        else if x == '\\' && quote == '"' then
          if (c.look? 1).any isBreak then do
            let c := (c.skip 1).skipBreak
            if c.sees quote then .ok (text, c.skip 1)
            else
              let (b, c) ← readBlanks 0 (c.rest.length + 1) c { folded := true }
              readQuoted quote fuel c true (b.text.reverse ++ text)
          else do
            let (y, c) ← readEscape c
            readQuoted quote fuel c false (y :: text)
        else readQuoted quote fuel (c.skip 1) false (x :: text)

/-! ## Block scalars -/

/-- What happens to the line breaks at the end of a block. -/
inductive Chomping where
  | strip
  | clip
  | keep
deriving DecidableEq, Repr

/-- The switch that a sign of the header stands for. -/
def Chomping.ofSign? (x : Option Char) : Option Chomping :=
  if x == some '+' then some keep else if x == some '-' then some strip else none

/-- Reads the indentation digit of the header; zero is not one. -/
def readIncrement (c : Cursor) : Except SyntaxError (Option Nat × Cursor) :=
  match c.peek? with
  | some x =>
    if x == '0' then c.fail .blockHeader
    else if x.isDigit then .ok (some (x.toNat - 48), c.skip 1)
    else .ok (none, c)
  | none => .ok (none, c)

/-- Reads the header of a block: a sign and a digit in either order, a comment, the line's end. -/
def readBlockHeader (c : Cursor) : Except SyntaxError (Chomping × Option Nat × Cursor) := do
  let (chomping, increment, c) ← match Chomping.ofSign? c.peek? with
    | some chomping => do
      let (increment, c) ← readIncrement (c.skip 1)
      pure (chomping, increment, c)
    | none => do
      let (increment, c) ← readIncrement c
      match increment, Chomping.ofSign? c.peek? with
      | some _, some chomping => pure (chomping, increment, c.skip 1)
      | _, _ => pure (.clip, increment, c)
  let c := (c.skipWhile isBlank).skipComment
  if isBreakOrEnd c.peek? then pure (chomping, increment, c.skipBreak) else c.fail .blockHeader

/-- Reads empty lines and the indentation of the next one; also the widest indentation. -/
def readIndentation (indent : Option Nat) : Nat → Cursor → Nat → List Char →
    Except SyntaxError (Nat × List Char × Cursor)
  | 0, c, widest, breaks => .ok (widest, breaks, c)
  | fuel + 1, c, widest, breaks =>
    let spaces := (c.rest.takeWhile (· == ' ')).length
    let c := c.skip (match indent with
      | some n => min spaces (n - c.column)
      | none => spaces)
    let widest := max widest c.column
    if c.sees '\t' && indent.all (c.column < ·) then c.fail .tabIndentation
    else if (c.peek?).any isBreak then
      readIndentation indent fuel c.skipBreak widest (breaks ++ c.breakText)
    else .ok (widest, breaks, c)

/-- Reads empty lines before a line of the block. -/
def readEmptyLines (indent : Option Nat) (c : Cursor) :
    Except SyntaxError (Nat × List Char × Cursor) :=
  readIndentation indent (c.rest.length + 1) c 0 []

/--
Reads the lines of a block. The text comes last character first; `lineBreak` is the break of the
line before, `breaks` are those of the empty lines after it.
-/
def readBlockLines (literal : Bool) (indent : Nat) : Nat → Cursor → (afterBlank : Bool) →
    List Char → List Char → List Char →
    Except SyntaxError (List Char × List Char × List Char × Cursor)
  | 0, c, _, text, lineBreak, breaks => .ok (text, lineBreak, breaks, c)
  | fuel + 1, c, afterBlank, text, lineBreak, breaks =>
    match c.column == indent, c.peek? with
    | true, some x => do
      let folds := !literal && lineBreak == ['\n'] && !afterBlank && !isBlank x
      let joint := if folds then (if breaks.isEmpty then [' '] else []) else lineBreak
      let (line, c) := c.span (!isBreak ·)
      let text := line.reverse ++ (breaks.reverse ++ (joint.reverse ++ text))
      let lineBreak := c.breakText
      let (_, breaks, c) ← readEmptyLines (some indent) c.skipBreak
      readBlockLines literal indent fuel c (isBlank x) text lineBreak breaks
    | _, _ => .ok (text, lineBreak, breaks, c)

/-- Reads a block scalar behind its indicator, inside of a collection at an indentation. -/
def readBlock (literal : Bool) (parent : Option Nat) (c : Cursor) :
    Except SyntaxError (List Char × Cursor) := do
  let (chomping, increment, c) ← readBlockHeader c
  let given := increment.map (parent.getD 0 + ·)
  let (widest, breaks, c) ← readEmptyLines given c
  let indent := given.getD (max widest (max 1 (parent.elim 0 (· + 1))))
  let (text, lineBreak, breaks, c) ←
    readBlockLines literal indent (c.rest.length + 1) c false [] [] breaks
  let tail := match chomping with
    | .strip => []
    | .clip => lineBreak
    | .keep => lineBreak ++ breaks
  pure (text.reverse ++ tail, c)

end Paperwork.Yaml
