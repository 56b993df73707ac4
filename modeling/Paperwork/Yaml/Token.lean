import Paperwork.Yaml.Scalar
import Paperwork.Yaml.Tag

/-!
# Tokens of YAML

The tokens of a text with the block structure made explicit: indentation opens and closes block
collections. A key of one line is known only at its colon, so the tokens that open it are put in
front of tokens read before.
-/

namespace Paperwork.Yaml

/-- A token. -/
inductive Token where
  | version (major minor : Nat)
  | handle (name : String) (expansion : List UInt8)
  | documentStart
  | documentEnd
  | blockSequenceStart
  | blockMappingStart
  | blockEnd
  | flowSequenceStart
  | flowSequenceEnd
  | flowMappingStart
  | flowMappingEnd
  | blockEntry
  | flowEntry
  | key
  | value
  | reference (name : String)
  | anchor (name : String)
  | tag (handle : String) (suffix : List UInt8)
  | scalar (text : String) (plain : Bool)
  | streamEnd
deriving DecidableEq, Repr

/-- A place where a key of one line may have started. -/
structure PossibleKey where
  required : Bool
  /-- The number of tokens before it. -/
  position : Nat
  index : Nat
  line : Nat
  column : Nat

/-- A text in the course of being cut into tokens. -/
structure Lexer where
  cursor : Cursor
  /-- The tokens so far, the last one first. -/
  tokens : List Token
  /-- The columns of the open block collections, the innermost first. -/
  indents : List Nat
  /-- The possible key of the block context and of each open flow collection, innermost first. -/
  keys : List (Option PossibleKey)
  /-- Whether a key of one line may start here. -/
  keyAllowed : Bool

namespace Lexer

def start (text : List Char) : Lexer := ⟨.start text, [], [], [none], true⟩

def inFlow (l : Lexer) : Bool := 1 < l.keys.length

/-- The column of the innermost open block collection. -/
def indent? (l : Lexer) : Option Nat := l.indents.head?

def emit (l : Lexer) (t : Token) : Lexer := { l with tokens := t :: l.tokens }

/-- Puts tokens in front of all but a number of the tokens so far. -/
def emitAt (l : Lexer) (position : Nat) (ts : List Token) : Lexer :=
  let after := l.tokens.length - position
  { l with tokens := l.tokens.take after ++ (ts.reverse ++ l.tokens.drop after) }

def fail {α : Type} (l : Lexer) (problem : Problem) : Except SyntaxError α := l.cursor.fail problem

def skip (l : Lexer) (n : Nat) : Lexer := { l with cursor := l.cursor.skip n }

/-! ## Possible keys -/

/-- A possible key is given up once its line is over or it grows beyond 1024 bytes. -/
def dropStale (c : Cursor) : List (Option PossibleKey) → Except SyntaxError
    (List (Option PossibleKey))
  | [] => .ok []
  | none :: rest => (dropStale c rest).map (none :: ·)
  | some k :: rest =>
    if k.line < c.line || k.index + 1024 < c.index then
      if k.required then c.fail .missingColon else (dropStale c rest).map (none :: ·)
    else (dropStale c rest).map (some k :: ·)

/-- Gives up the innermost possible key, unless it has to be a key. -/
def dropKey (l : Lexer) : Except SyntaxError Lexer :=
  match l.keys with
  | some k :: rest =>
    if k.required then l.fail .missingColon else .ok { l with keys := none :: rest }
  | _ => .ok l

/-- Notes that a key may start here. At the column of an open block collection it has to. -/
def noteKey (l : Lexer) : Except SyntaxError Lexer :=
  if !l.keyAllowed then .ok l
  else do
    let required := !l.inFlow && l.indent? == some l.cursor.column
    let l ← l.dropKey
    let c := l.cursor
    pure { l with
      keys := some ⟨required, l.tokens.length, c.index, c.line, c.column⟩ :: l.keys.drop 1 }

/-! ## Block structure -/

/-- Whether a block collection at a column would be inside of the open ones. -/
def opensAt (l : Lexer) (column : Nat) : Bool := !l.inFlow && l.indent?.all (· < column)

/-- Opens a block collection at the place of the cursor, if that is further in. -/
def openBlock (l : Lexer) (t : Token) : Lexer :=
  if l.opensAt l.cursor.column then
    { l.emit t with indents := l.cursor.column :: l.indents }
  else l

/-- Closes the block collections that start behind a column; without one, all. -/
def closeBlocks (l : Lexer) (column : Option Nat) : Lexer :=
  if l.inFlow then l
  else
    let closed := l.indents.takeWhile fun i => column.all (· < i)
    { l with
      tokens := List.replicate closed.length .blockEnd ++ l.tokens
      indents := l.indents.drop closed.length }

/-! ## Single tokens -/

/--
Skips blanks, comments and line breaks. A line may start with a byte order mark, which takes a
column; a tab may not stand where a key may start.
-/
def skipToToken : Nat → Lexer → Lexer
  | 0, l => l
  | fuel + 1, l =>
    let c := l.cursor
    let c := if c.column == 0 && c.sees '\ufeff' then c.skip 1 else c
    let tabs := l.inFlow || !l.keyAllowed
    let c := (c.skipWhile fun x => x == ' ' || (tabs && x == '\t')).skipComment
    if (c.peek?).any isBreak then
      skipToToken fuel { l with cursor := c.skipBreak, keyAllowed := l.keyAllowed || !l.inFlow }
    else { l with cursor := c }

/-- Reads digits of a version. -/
def readVersionPart (c : Cursor) : Except SyntaxError (Nat × Cursor) :=
  let (digits, after) := c.span Char.isDigit
  if digits.isEmpty || 9 < digits.length then c.fail .directive
  else .ok (digits.foldl (fun n x => 10 * n + (x.toNat - 48)) 0, after)

/-- Reads a tag handle: an exclamation mark, a word, and another exclamation mark if any. -/
def readHandle (c : Cursor) : Except SyntaxError (List Char × Cursor) :=
  if !c.sees '!' then c.fail .tag
  else
    let (word, after) := (c.skip 1).span isWordChar
    if after.sees '!' then .ok ('!' :: word ++ ['!'], after.skip 1) else .ok ('!' :: word, after)

/-- The characters of a tag; a verbatim one has three more. -/
def isTagChar (verbatim : Bool) (x : Char) : Bool :=
  isWordChar x || (";/?:@&=+$.!~*'()%".toList.contains x)
    || (verbatim && (x == ',' || x == '[' || x == ']'))

/-- The number of bytes that have to follow a byte to look like a character. -/
def followers? (b : UInt8) : Option Nat :=
  if b < 0x80 then some 0
  else if 0xc0 ≤ b && b < 0xe0 then some 1
  else if 0xe0 ≤ b && b < 0xf0 then some 2
  else if 0xf0 ≤ b && b < 0xf8 then some 3
  else none

/--
The bytes of a tag's characters; `owed` bytes have to follow those before. A percent escape is one
byte, and only escapes can follow one that owes bytes.
-/
def tagBytes? (owed : Nat) : List Char → Option (List UInt8)
  | [] => if owed = 0 then some [] else none
  | '%' :: a :: b :: rest => do
    let byte := UInt8.ofNat (← hexNumber? [a, b])
    match owed with
    | 0 => (tagBytes? (← followers? byte) rest).map (byte :: ·)
    | owed + 1 =>
      if 0x80 ≤ byte && byte < 0xc0 then (tagBytes? owed rest).map (byte :: ·) else none
  | x :: rest =>
    if x == '%' || owed != 0 then none else (tagBytes? 0 rest).map (UInt8.ofNat x.toNat :: ·)

/-- Reads the characters of a tag. -/
def readTagText (verbatim : Bool) (c : Cursor) : Except SyntaxError (List UInt8 × Cursor) :=
  let (text, after) := c.span (isTagChar verbatim)
  match tagBytes? 0 text with
  | some bytes => .ok (bytes, after)
  | none => c.fail .tag

/-- Reads a tag: its handle, which is empty for a verbatim tag, and its suffix. -/
def readTag (c : Cursor) : Except SyntaxError (String × List UInt8 × Cursor) := do
  if c.look? 1 == some '<' then
    let (suffix, c) ← readTagText true (c.skip 2)
    if suffix.isEmpty || !c.sees '>' then c.fail .tag
    else pure ("", suffix, c.skip 1)
  else
    let (handle, after) ← readHandle c
    if handle.length > 1 && handle.getLast? == some '!' then
      let (suffix, after) ← readTagText false after
      if suffix.isEmpty then c.fail .tag
      else pure (String.ofList handle, suffix, after)
    else
      let (more, after) ← readTagText false after
      let suffix := Tag.untilZero ((handle.drop 1).map (UInt8.ofNat ·.toNat) ++ more)
      if suffix.isEmpty then pure ("", Tag.ownExpansion, after) else pure ("!", suffix, after)

/-- Reads a directive and the rest of its line. -/
def readDirective (c : Cursor) : Except SyntaxError (Token × Cursor) := do
  let (name, after) := (c.skip 1).span isWordChar
  if name.isEmpty || !isBlankOrEnd after.peek? then c.fail .directive
  let after := after.skipWhile isBlank
  let (token, after) ← match String.ofList name with
    | "YAML" => do
      let (major, after) ← readVersionPart after
      if !after.sees '.' then c.fail .directive
      let (minor, after) ← readVersionPart (after.skip 1)
      pure (Token.version major minor, after)
    | "TAG" => do
      let (handle, after) ← readHandle after
      if handle != ['!'] && handle.getLast? != some '!' then c.fail .directive
      if !(after.peek?).any isBlank then c.fail .directive
      let (expansion, after) ← readTagText true (after.skipWhile isBlank)
      if expansion.isEmpty || !isBlankOrEnd after.peek? then c.fail .directive
      pure (Token.handle (String.ofList handle) expansion, after)
    | _ => c.fail .directive
  let after := (after.skipWhile isBlank).skipComment
  if isBreakOrEnd after.peek? then pure (token, after.skipBreak) else c.fail .directive

/-- The token of an indicator that opens or closes a flow collection. -/
def flowToken? (x : Char) : Option Token :=
  match x with
  | '[' => some .flowSequenceStart
  | '\x7b' => some .flowMappingStart
  | ']' => some .flowSequenceEnd
  | '\x7d' => some .flowMappingEnd
  | ',' => some .flowEntry
  | _ => none

/-- Whether a plain scalar may start with a character, given the one after it. -/
def startsPlain (inFlow : Bool) (x : Char) (next : Option Char) : Bool :=
  !(isBlank x || "-?:,[]\x7b\x7d#&*!|>'\"%@`".toList.contains x)
    || (x == '-' && !next.any isBlank)
    || (!inFlow && (x == '?' || x == ':') && !isBlankOrEnd next)

/-! ## Reading tokens -/

/-- Ends all open blocks before a directive or a document mark. -/
def endBlocks (l : Lexer) : Except SyntaxError Lexer := do
  let l ← (l.closeBlocks none).dropKey
  pure { l with keyAllowed := false }

/-- Reads an indicator of a flow collection. -/
def readFlow (l : Lexer) (t : Token) : Except SyntaxError Lexer :=
  match t with
  | .flowSequenceStart | .flowMappingStart => do
    let l ← l.noteKey
    pure { (l.skip 1).emit t with keys := none :: l.keys, keyAllowed := true }
  | .flowEntry => do
    let l ← l.dropKey
    pure { (l.skip 1).emit t with keyAllowed := true }
  | _ => do
    let l ← l.dropKey
    let keys := if l.inFlow then l.keys.drop 1 else l.keys
    pure { (l.skip 1).emit t with keys, keyAllowed := false }

/-- Reads the hyphen of a block entry. -/
def readEntry (l : Lexer) : Except SyntaxError Lexer := do
  if !l.inFlow && !l.keyAllowed then l.fail .entryNotAllowed
  let l ← (l.openBlock .blockSequenceStart).dropKey
  pure { (l.skip 1).emit .blockEntry with keyAllowed := true }

/-- Reads the question mark of a key. -/
def readKey (l : Lexer) : Except SyntaxError Lexer := do
  if !l.inFlow && !l.keyAllowed then l.fail .keyNotAllowed
  let l ← (l.openBlock .blockMappingStart).dropKey
  pure { (l.skip 1).emit .key with keyAllowed := !l.inFlow }

/-- Reads the colon of a value. A possible key before it becomes a key. -/
def readValue (l : Lexer) : Except SyntaxError Lexer :=
  match l.keys with
  | some k :: rest =>
    let opening := l.opensAt k.column
    let l := l.emitAt k.position (if opening then [.blockMappingStart, .key] else [.key])
    let indents := if opening then k.column :: l.indents else l.indents
    .ok { (l.skip 1).emit .value with keys := none :: rest, keyAllowed := false, indents }
  | _ =>
    if !l.inFlow && !l.keyAllowed then l.fail .valueNotAllowed
    else
      let l := l.openBlock .blockMappingStart
      .ok { (l.skip 1).emit .value with keyAllowed := !l.inFlow }

/-- Reads the name of an anchor or an alias. -/
def readAnchor (l : Lexer) (toToken : String → Token) : Except SyntaxError Lexer := do
  let l ← l.noteKey
  let (name, after) := (l.cursor.skip 1).span isWordChar
  let ends := isBlankOrEnd after.peek? || (after.peek?).any ("?:,]\x7d%@`".toList.contains ·)
  if name.isEmpty || !ends then l.fail .anchor
  pure { l.emit (toToken (String.ofList name)) with cursor := after, keyAllowed := false }

/-- Reads a tag and the blank after it. -/
def readTagToken (l : Lexer) : Except SyntaxError Lexer := do
  let l ← l.noteKey
  let (handle, suffix, after) ← readTag l.cursor
  if !isBlankOrEnd after.peek? && !(l.inFlow && after.sees ',') then l.fail .tag
  pure { l.emit (.tag handle suffix) with cursor := after, keyAllowed := false }

/-- Reads a block scalar. -/
def readBlockScalar (l : Lexer) (literal : Bool) : Except SyntaxError Lexer := do
  let l ← l.dropKey
  let (text, after) ← readBlock literal l.indent? (l.cursor.skip 1)
  pure { l.emit (.scalar (String.ofList text) false) with cursor := after, keyAllowed := true }

/-- Reads a quoted scalar. -/
def readQuotedScalar (l : Lexer) (quote : Char) : Except SyntaxError Lexer := do
  let l ← l.noteKey
  let c := l.cursor.skip 1
  let (text, after) ← readQuoted quote (c.rest.length + 1) c true []
  pure { l.emit (.scalar (String.ofList text.reverse) false) with
    cursor := after, keyAllowed := false }

/-- Reads a plain scalar. A key may start after a scalar of several lines. -/
def readPlainScalar (l : Lexer) : Except SyntaxError Lexer := do
  let l ← l.noteKey
  let c := l.cursor
  let (text, ended, after) ←
    readPlain l.inFlow (l.indent?.elim 0 (· + 1)) (c.rest.length + 1) c true [] {}
  pure { l.emit (.scalar (String.ofList text.reverse) true) with
    cursor := after, keyAllowed := ended }

/-- Reads the token that starts with a character. -/
def readToken (l : Lexer) (x : Char) : Except SyntaxError Lexer := do
  let c := l.cursor
  let spaced := isBlankOrEnd (c.look? 1)
  if c.column == 0 && x == '%' then
    let l ← l.endBlocks
    let (t, after) ← readDirective l.cursor
    pure { l.emit t with cursor := after }
  else if c.seesMark '-' then pure (((← l.endBlocks).skip 3).emit .documentStart)
  else if c.seesMark '.' then pure (((← l.endBlocks).skip 3).emit .documentEnd)
  else if let some t := flowToken? x then l.readFlow t
  else if x == '-' && spaced then l.readEntry
  else if x == '?' && (l.inFlow || spaced) then l.readKey
  else if x == ':' && (l.inFlow || spaced) then l.readValue
  else if x == '*' then l.readAnchor .reference
  else if x == '&' then l.readAnchor .anchor
  else if x == '!' then l.readTagToken
  else if x == '|' && !l.inFlow then l.readBlockScalar true
  else if x == '>' && !l.inFlow then l.readBlockScalar false
  else if x == '\'' || x == '"' then l.readQuotedScalar x
  else if startsPlain l.inFlow x (c.look? 1) then l.readPlainScalar
  else l.fail .unknownToken

/-- Reads all tokens. -/
def run : Nat → Lexer → Except SyntaxError Lexer
  | 0, l => .ok l
  | fuel + 1, l => do
    let l := l.skipToToken (l.cursor.rest.length + 1)
    let keys ← dropStale l.cursor l.keys
    let l := { l with keys }.closeBlocks (some l.cursor.column)
    match l.cursor.peek? with
    | none =>
      let l ← (l.closeBlocks none).dropKey
      pure (l.emit .streamEnd)
    | some x => run fuel (← l.readToken x)

end Lexer

/-- The tokens of a text. -/
def Token.ofText (text : List Char) : Except SyntaxError (List Token) :=
  match text.find? (!isAllowed ·) with
  | some _ => .error ⟨.controlCharacter, 0⟩
  | none => ((Lexer.start text).run (text.length + 1)).map (·.tokens.reverse)

end Paperwork.Yaml
