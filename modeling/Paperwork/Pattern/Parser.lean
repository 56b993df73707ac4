import Paperwork.Pattern.Syntax
import Paperwork.Unicode.Property
import Paperwork.Unicode.Text

/-!
# Parsing patterns

A recursive descent over the characters of a pattern. Where blanks are ignored they are skipped,
together with comments, between the tokens and also inside of escapes and counts.
-/

namespace Paperwork.Pattern

open Paperwork.Unicode

/-- What is left of a pattern, and what its beginning has settled. -/
structure Cursor where
  rest : List Char
  ignoreBlanks : Bool
  groups : Nat
  names : List String

/-- A step of the parser. -/
abbrev Parse (α : Type) := StateT Cursor (Except PatternError) α

/-! ## Characters -/

/-- Blanks in the sense of the standard. -/
def isBlank (c : Char) : Bool :=
  c == ' ' || ('\t' ≤ c && c ≤ '\r') || (128 ≤ c.val && blankCodes.contains c.toNat)

/-- Drops blanks and comments. -/
def dropBlanks : List Char → Bool → List Char
  | [], _ => []
  | c :: rest, true => dropBlanks rest (c != '\n')
  | c :: rest, false =>
    if isBlank c then dropBlanks rest false
    else if c == '#' then dropBlanks rest true
    else c :: rest

/-- The next character. -/
def peek : Parse (Option Char) := do pure (← get).rest.head?

/-- Skips blanks where they are ignored. -/
def skipBlanks : Parse Unit :=
  modify fun s => if s.ignoreBlanks then { s with rest := dropBlanks s.rest false } else s

/-- Drops one character. -/
def drop : Parse Unit := modify fun s => { s with rest := s.rest.tail }

/-- Drops one character and blanks after it. -/
def dropAndSkip : Parse Unit := do
  drop
  skipBlanks

/-- The next character; the end of the pattern is a fault. -/
def need (fault : PatternError) : Parse Char := do
  match ← peek with
  | some c => pure c
  | none => throw fault

/-- Drops a prefix if the rest of the pattern begins with it. -/
def dropIf (text : String) : Parse Bool := do
  let s ← get
  let cs := text.toList
  if cs.isPrefixOf s.rest then
    set { s with rest := s.rest.drop cs.length }
    pure true
  else pure false

/-- Fuel for loops over the rest of the pattern. -/
def fuel : Parse Nat := do pure ((← get).rest.length + 1)

def isDigit (c : Char) : Bool := '0' ≤ c && c ≤ '9'

def hexDigit? (c : Char) : Option Nat :=
  if isDigit c then some (c.toNat - 48)
  else if 'a' ≤ c && c ≤ 'f' then some (c.toNat - 87)
  else if 'A' ≤ c && c ≤ 'F' then some (c.toNat - 55)
  else none

/-- The character of a code point, surrogates excluded. -/
def charOf? (code : Nat) : Option Char :=
  if h : code.isValidChar then some (Char.ofNatAux code h) else none

/-- Characters with a meaning of their own, which a backslash takes away. -/
def isMeta (c : Char) : Bool := "\\.+*?()|[]\x7b\x7d^$#&-~".toList.contains c

/-- Characters that a backslash leaves as they are. -/
def isEscapable (c : Char) : Bool :=
  isMeta c || (c.val < 128 && !c.isAlphanum && c != '<' && c != '>')

/-! ## Escapes -/

/-- A class, a place or a character outside of brackets and operators. -/
inductive Primitive where
  | letter (l : Letter)
  | anchor (kind : Anchor)
  | dot
  | letterClass (negated : Bool) (kind : LetterClass)
  | property (negated : Bool) (query : PropertyQuery)

def Primitive.toSyntax : Primitive → Syntax
  | letter l => .letter l
  | anchor kind => .anchor kind
  | dot => .dot
  | letterClass negated kind => .letterClass negated kind
  | property negated query => .property negated query

/-- Reads hexadecimal digits of a fixed count. -/
def parseHexDigits : Nat → Nat → Bool → Parse Nat
  | 0, code, _ => do
    skipBlanks
    pure code
  | count + 1, code, first => do
    if !first then skipBlanks
    let c ← need .unexpectedEnd
    match hexDigit? c with
    | none => throw .hexDigits
    | some d => do
      drop
      parseHexDigits count (code * 16 + d) false

/-- Reads hexadecimal digits up to a closing brace. -/
def parseHexBrace : Nat → List Nat → Parse Nat
  | 0, _ => throw .unexpectedEnd
  | n + 1, digits => do
    skipBlanks
    let c ← need .unexpectedEnd
    if c == '\x7d' then
      dropAndSkip
      match digits with
      | [] => throw .hexDigits
      | ds => pure (ds.foldl (fun code d => if code > lastCode then code else code * 16 + d) 0)
    else match hexDigit? c with
      | none => throw .hexDigits
      | some d => do
        drop
        parseHexBrace n (digits ++ [d])

/-- Reads the code point after `x`, `u` or `U`. -/
def parseHex (kind : Char) : Parse Letter := do
  dropAndSkip
  let c ← need .unexpectedEnd
  if c == '\x7b' then
    drop
    let code ← parseHexBrace (← fuel) []
    match charOf? code with
    | some c => pure ⟨c, false⟩
    | none => throw .hexDigits
  else
    let count := if kind == 'x' then 2 else if kind == 'u' then 4 else 8
    let code ← parseHexDigits count 0 true
    match charOf? code with
    | some c => pure ⟨c, kind == 'x'⟩
    | none => throw .hexDigits

/-- Reads a property name up to a closing brace. -/
def parsePropertyName : Nat → List Char → Parse String
  | 0, _ => throw .unexpectedEnd
  | n + 1, read => do
    skipBlanks
    let c ← need .unexpectedEnd
    drop
    if c == '\x7d' then pure (String.ofList read.reverse) else parsePropertyName n (c :: read)

/-- Splits a list before and after the first place where a separator stands. -/
def cutAt (separator : List Char) : List Char → Option (List Char × List Char)
  | [] => none
  | c :: rest =>
    if separator.isPrefixOf (c :: rest) then some ([], (c :: rest).drop separator.length)
    else (cutAt separator rest).map fun (a, b) => (c :: a, b)

/-- The property that the inside of the braces spells; an unequal sign negates it once more. -/
def propertyOf (negated : Bool) (name : String) : Primitive :=
  let cs := name.toList
  let query (parts : List Char × List Char) : PropertyQuery :=
    .valued (String.ofList parts.1) (String.ofList parts.2)
  match cutAt "!=".toList cs, cutAt ":".toList cs <|> cutAt "=".toList cs with
  | some parts, _ => .property (!negated) (query parts)
  | none, some parts => .property negated (query parts)
  | none, none => .property negated (.named name)

/-- Reads a property. -/
def parseProperty (negated : Bool) : Parse Primitive := do
  dropAndSkip
  let c ← need .unexpectedEnd
  if c == '\x7b' then
    drop
    pure (propertyOf negated (← parsePropertyName (← fuel) []))
  else if c == '\\' then throw .unknownProperty
  else
    dropAndSkip
    pure (.property negated (.named (String.singleton c)))

def isBoundaryLetter (c : Char) : Bool := c.isAlpha || c == '-'

/-- Reads the letters of a special word boundary. -/
def parseBoundaryName : Nat → List Char → Parse String
  | 0, _ => throw .wordBoundary
  | n + 1, read => do
    match ← peek with
    | none => throw .wordBoundary
    | some c =>
      if isBoundaryLetter c then
        dropAndSkip
        parseBoundaryName n (c :: read)
      else if c == '\x7d' then
        drop
        pure (String.ofList read.reverse)
      else throw .wordBoundary

/-- Reads what may follow the escape of a word boundary: a name in braces, or else a count. -/
def parseBoundary : Parse Anchor := do
  let start ← get
  match start.rest with
  | '\x7b' :: _ =>
    dropAndSkip
    let c ← need .unexpectedEnd
    if !isBoundaryLetter c then
      set start
      pure .wordBoundary
    else
      match ← parseBoundaryName (← fuel) [] with
      | "start" => pure .wordStart
      | "end" => pure .wordEnd
      | "start-half" => pure .wordStartHalf
      | "end-half" => pure .wordEndHalf
      | _ => throw .wordBoundary
  | _ => pure .wordBoundary

/-- Reads an escape, its backslash included. -/
def parseEscape : Parse Primitive := do
  drop
  let c ← need .unexpectedEnd
  let plain (p : Primitive) : Parse Primitive := do
    drop
    pure p
  let control (c : Char) : Parse Primitive := plain (.letter ⟨c, false⟩)
  if isDigit c then throw .backreference
  else match c with
    | 'x' | 'u' | 'U' => do pure (.letter (← parseHex c))
    | 'p' => parseProperty false
    | 'P' => parseProperty true
    | 'd' => plain (.letterClass false .digit)
    | 'D' => plain (.letterClass true .digit)
    | 's' => plain (.letterClass false .blank)
    | 'S' => plain (.letterClass true .blank)
    | 'w' => plain (.letterClass false .word)
    | 'W' => plain (.letterClass true .word)
    | 'a' => control '\x07'
    | 'f' => control '\x0c'
    | 't' => control '\t'
    | 'n' => control '\n'
    | 'r' => control '\r'
    | 'v' => control '\x0b'
    | 'A' => plain (.anchor .textStart)
    | 'z' => plain (.anchor .textEnd)
    | 'b' => do
      drop
      pure (.anchor (← parseBoundary))
    | 'B' => plain (.anchor .notWordBoundary)
    | '<' => plain (.anchor .wordStart)
    | '>' => plain (.anchor .wordEnd)
    | c => if isEscapable c then control c else throw (.unknownEscape c)

/-! ## Bracketed classes -/

/-- The ASCII classes by name. -/
def asciiClasses : List (String × List (Nat × Nat)) := [
  ("alnum", [(48, 57), (65, 90), (97, 122)]),
  ("alpha", [(65, 90), (97, 122)]),
  ("ascii", [(0, 127)]),
  ("blank", [(9, 9), (32, 32)]),
  ("cntrl", [(0, 31), (127, 127)]),
  ("digit", [(48, 57)]),
  ("graph", [(33, 126)]),
  ("lower", [(97, 122)]),
  ("print", [(32, 126)]),
  ("punct", [(33, 47), (58, 64), (91, 96), (123, 126)]),
  ("space", [(9, 13), (32, 32)]),
  ("upper", [(65, 90)]),
  ("word", [(48, 57), (65, 90), (95, 95), (97, 122)]),
  ("xdigit", [(48, 57), (65, 70), (97, 102)])]

/-- An ASCII class in its brackets and colons at the head of the rest, if there is one. -/
def asciiClass? (rest : List Char) : Option (ClassItem × List Char) :=
  match rest with
  | '[' :: ':' :: more =>
    let (negated, more) := match more with
      | '^' :: more => (true, more)
      | more => (false, more)
    let name := more.takeWhile (· != ':')
    match more.dropWhile (· != ':') with
    | ':' :: ']' :: after =>
      (asciiClasses.find? (·.1 == String.ofList name)).map fun (_, ranges) =>
        (.ascii negated ranges, after)
    | _ => none
  | _ => none

/-- Reads one end of a range or an item of a class. -/
def parseClassAtom : Parse Primitive := do
  let c ← need .classUnclosed
  if c == '\\' then parseEscape
  else
    drop
    pure (.letter ⟨c, false⟩)

/-- The item that an atom is when it stands alone. -/
def itemOf : Primitive → Parse ClassItem
  | .letter l => pure (.letter l)
  | .letterClass negated kind => pure (.letterClass negated kind)
  | .property negated query => pure (.property negated query)
  | _ => throw .classItem

/-- The character that an atom is as the end of a range. -/
def letterOf : Primitive → Parse Letter
  | .letter l => pure l
  | _ => throw .classRange

/-- Reads an item or a range. A hyphen before the closing bracket or another hyphen is no range. -/
def parseClassRange : Parse ClassItem := do
  let first ← parseClassAtom
  skipBlanks
  let c ← need .classUnclosed
  let s ← get
  let after := (if s.ignoreBlanks then dropBlanks s.rest.tail false else s.rest.tail).head?
  if c != '-' || after == some ']' || after == some '-' then itemOf first
  else
    dropAndSkip
    let _ ← need .classUnclosed
    let last ← parseClassAtom
    let first ← letterOf first
    let last ← letterOf last
    if last.char < first.char then throw .classRange else pure (.range first last)

/-- Reads hyphens at the beginning of a class. -/
def parseHyphens : Nat → List ClassItem → Parse (List ClassItem)
  | 0, items => pure items
  | n + 1, items => do
    if (← need .classUnclosed) == '-' then
      dropAndSkip
      parseHyphens n (items ++ [.letter ⟨'-', false⟩])
    else pure items

/-- Reads the opening bracket, the negation and the items that count as literal there. -/
def parseClassOpen : Parse (Bool × List ClassItem) := do
  dropAndSkip
  let negated ← do
    if (← need .classUnclosed) == '^' then
      dropAndSkip
      pure true
    else pure false
  let items ← parseHyphens (← fuel) []
  if items.isEmpty && (← need .classUnclosed) == ']' then
    dropAndSkip
    let _ ← need .classUnclosed
    pure (negated, [.letter ⟨']', false⟩])
  else pure (negated, items)

/-- The set of finished operations on the left and the items after them. -/
def closeSet (left : Option (SetOperation × ClassSet)) (items : List ClassItem) : ClassSet :=
  match left with
  | none => .items items
  | some (kind, set) => .operation kind set (.items items)

/-- The set operation at the head of the rest. -/
def operation? : List Char → Option SetOperation
  | '&' :: '&' :: _ => some .intersection
  | '-' :: '-' :: _ => some .difference
  | '~' :: '~' :: _ => some .symmetricDifference
  | _ => none

/-- Reads a class from its opening bracket. Operations group to the left. -/
def parseClass : Nat → Parse (Bool × ClassSet)
  | 0 => throw .classUnclosed
  | n + 1 => do
    let (negated, items) ← parseClassOpen
    let set ← body n none items
    pure (negated, set)
where
  body : Nat → Option (SetOperation × ClassSet) → List ClassItem → Parse ClassSet
    | 0, _, _ => throw .classUnclosed
    | n + 1, left, items => do
      skipBlanks
      let c ← need .classUnclosed
      let s ← get
      if c == '[' then
        match asciiClass? s.rest with
        | some (item, rest) => do
          set { s with rest }
          body n left (items ++ [item])
        | none => do
          let (negated, inner) ← parseClass n
          body n left (items ++ [.bracket negated inner])
      else if c == ']' then
        drop
        pure (closeSet left items)
      else match operation? s.rest with
        | some kind => do
          drop
          drop
          body n (some (kind, closeSet left items)) []
        | none => do
          let item ← parseClassRange
          body n left (items ++ [item])

/-! ## Groups and repetition -/

/-- The switch of a letter. -/
def flagOf? : Char → Option Flag
  | 'i' => some .ignoreCase
  | 'm' => some .multiLine
  | 's' => some .dotAll
  | 'U' => some .lazyFirst
  | 'u' => some .unicode
  | 'R' => some .crlf
  | 'x' => some .ignoreBlanks
  | _ => none

/-- Reads switches up to a colon or a closing bracket. A hyphen turns off what comes after it. -/
def parseFlags : Nat → Bool → Bool → FlagChange → Parse FlagChange
  | 0, _, _, _ => throw .unexpectedEnd
  | n + 1, off, dangling, change => do
    let c ← need .unexpectedEnd
    if c == ':' || c == ')' then
      if dangling then throw .flag else pure change
    else if c == '-' then
      if off then throw .flag
      else
        drop
        parseFlags n true true change
    else match flagOf? c with
      | none => throw .flag
      | some flag =>
        if change.any (·.1 == flag) then throw .flag
        else do
          drop
          parseFlags n off false (change ++ [(flag, !off)])

/-- Whether a character may stand in a group name, at its beginning or later. -/
def isNameChar (first : Bool) (c : Char) : Bool :=
  if c.val < 128 then
    if first then c == '_' || c.isAlpha
    else c == '_' || c == '.' || c == '[' || c == ']' || c.isAlphanum
  else alphabeticCodes.contains c.toNat || (!first && numericCodes.contains c.toNat)

/-- Reads a group name up to the closing angle. -/
def parseName : Nat → List Char → Parse String
  | 0, _ => throw .groupName
  | n + 1, read => do
    let c ← need .groupName
    if c == '>' then
      drop
      if read.isEmpty then throw .groupName else pure (String.ofList read.reverse)
    else if isNameChar read.isEmpty c then
      drop
      parseName n (c :: read)
    else throw .groupName

/-- Takes the next group number. -/
def nextGroup : Parse Nat := do
  let s ← get
  set { s with groups := s.groups + 1 }
  pure (s.groups + 1)

/-- What an opening bracket begins: switches for the rest of the group, or a group. -/
def parseGroupOpen : Parse (FlagChange ⊕ GroupKind) := do
  drop
  skipBlanks
  let rest := (← get).rest
  if ["?=", "?!", "?<=", "?<!"].any fun p => p.toList.isPrefixOf rest then throw .lookAround
  else if (← dropIf "?P<") || (← dropIf "?<") then
    let index ← nextGroup
    let name ← parseName (← fuel) []
    let s ← get
    if s.names.contains name then throw (.repeatedName name)
    set { s with names := name :: s.names }
    pure (.inr (.capture index (some name)))
  else if ← dropIf "?" then
    let change ← parseFlags (← fuel) false false []
    let last ← need .unexpectedEnd
    drop
    if last == ')' then
      if change.isEmpty then throw .nothingToRepeat else pure (.inl change)
    else pure (.inr (.plain change))
  else
    pure (.inr (.capture (← nextGroup) none))

/-- The value of a switch after a change, if the change sets it. -/
def changed? (flag : Flag) (change : FlagChange) : Option Bool :=
  (change.find? (·.1 == flag)).map (·.2)

/-- Drops blanks that are skipped around counts in any mode. -/
def dropCountBlanks : Parse Unit := modify fun s => { s with rest := s.rest.dropWhile isBlank }

/-- Reads decimal digits. -/
def parseCountDigits : Nat → List Char → Parse (List Char)
  | 0, read => pure read
  | n + 1, read => do
    match ← peek with
    | some c =>
      if isDigit c then
        dropAndSkip
        parseCountDigits n (read ++ [c])
      else pure read
    | none => pure read

/-- Reads a count of 32 bits. -/
def parseCount : Parse Nat := do
  dropCountBlanks
  let digits ← parseCountDigits (← fuel) []
  dropCountBlanks
  if digits.isEmpty then throw .number
  else
    let n := digits.foldl (fun n c => n * 10 + (c.toNat - 48)) 0
    if n < UInt32.size then pure n else throw .number

/-- Whether a question mark makes the repetition before it lazy. -/
def parseLazy : Parse Bool := do
  if (← peek) == some '?' then
    drop
    pure true
  else pure false

/-- Reads a count in braces: least, most, and whether it is lazy. -/
def parseBraces : Parse (Nat × Option Nat × Bool) := do
  dropAndSkip
  let _ ← need .repetitionBounds
  let least ← parseCount
  let c ← need .repetitionBounds
  let most ← do
    if c == ',' then
      dropAndSkip
      if (← need .repetitionBounds) == '\x7d' then pure none else pure (some (← parseCount))
    else pure (some least)
  if (← need .repetitionBounds) != '\x7d' then throw .repetitionBounds
  dropAndSkip
  let isLazy ← parseLazy
  match most with
  | some m => if m < least then throw .repetitionBounds else pure (least, most, isLazy)
  | none => pure (least, most, isLazy)

/-- Repeats the last part; there has to be one, and it must not be switches. -/
def repeatLast (parts : List Syntax) (least : Nat) (most : Option Nat) (greedy : Bool) :
    Parse (List Syntax) :=
  match parts with
  | [] => throw .nothingToRepeat
  | .empty :: _ => throw .nothingToRepeat
  | .flags _ :: _ => throw .nothingToRepeat
  | part :: before => pure (.repeated part least most greedy :: before)

/--
Reads branches up to a closing bracket or the end. The parts of the current branch are kept in
reverse.
-/
def parseBranches : Nat → List Syntax → List Syntax → Parse Syntax
  | 0, _, _ => throw .tooNested
  | n + 1, branches, parts => do
    skipBlanks
    match ← peek with
    | none => pure (.ofBranches (branches ++ [.ofParts parts.reverse]))
    | some c =>
      match c with
      | ')' => pure (.ofBranches (branches ++ [.ofParts parts.reverse]))
      | '|' => do
        drop
        parseBranches n (branches ++ [.ofParts parts.reverse]) []
      | '(' => do
        let outer := (← get).ignoreBlanks
        match ← parseGroupOpen with
        | .inl change => do
          modify fun s =>
            { s with ignoreBlanks := (changed? .ignoreBlanks change).getD s.ignoreBlanks }
          parseBranches n branches (.flags change :: parts)
        | .inr kind => do
          let inner := match kind with
            | .plain change => (changed? .ignoreBlanks change).getD outer
            | _ => outer
          modify fun s => { s with ignoreBlanks := inner }
          let sub ← parseBranches n [] []
          match ← peek with
          | none => throw .groupUnclosed
          | some _ => do
            drop
            modify fun s => { s with ignoreBlanks := outer }
            parseBranches n branches (.group kind sub :: parts)
      | '[' => do
        let (negated, set) ← parseClass (← fuel)
        parseBranches n branches (.bracket negated set :: parts)
      | '?' => do
        drop
        let parts ← repeatLast parts 0 (some 1) (!(← parseLazy))
        parseBranches n branches parts
      | '*' => do
        drop
        let parts ← repeatLast parts 0 none (!(← parseLazy))
        parseBranches n branches parts
      | '+' => do
        drop
        let parts ← repeatLast parts 1 none (!(← parseLazy))
        parseBranches n branches parts
      | '\x7b' => do
        let _ ← repeatLast parts 0 none true
        let (least, most, isLazy) ← parseBraces
        let parts ← repeatLast parts least most (!isLazy)
        parseBranches n branches parts
      | '\\' => do
        let p ← parseEscape
        parseBranches n branches (p.toSyntax :: parts)
      | '.' => do
        drop
        parseBranches n branches (.dot :: parts)
      | '^' => do
        drop
        parseBranches n branches (.anchor .lineStart :: parts)
      | '$' => do
        drop
        parseBranches n branches (.anchor .lineEnd :: parts)
      | c => do
        drop
        parseBranches n branches (.letter ⟨c, false⟩ :: parts)

/-- Levels of nesting that a pattern may have. -/
def maxNesting : Nat := 250

/-- The syntax tree of a pattern. Every call takes a character, so twice the length is enough. -/
def parse (pattern : String) : Except PatternError Syntax := do
  let cs := pattern.toList
  let (tree, after) ← (parseBranches (2 * cs.length + 2) [] []).run ⟨cs, false, 0, []⟩
  if !after.rest.isEmpty then throw .groupUnopened
  else if maxNesting < tree.depth then throw .tooNested
  else pure tree

end Paperwork.Pattern
