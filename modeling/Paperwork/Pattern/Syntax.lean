/-!
# Syntax trees of patterns

What a pattern spells, before flags are applied. Groups are numbered by their opening brackets.
-/

namespace Paperwork.Pattern

/-- Why a pattern is not valid. -/
inductive PatternError where
  | unexpectedEnd
  | lookAround
  | backreference
  | unknownEscape (c : Char)
  | groupUnclosed
  | groupUnopened
  | groupName
  | repeatedName (name : String)
  | flag
  | nothingToRepeat
  | repetitionBounds
  | number
  | hexDigits
  | classUnclosed
  | classItem
  | classRange
  | wordBoundary
  | unknownProperty
  | notText
  | tooNested
  | tooLarge
deriving DecidableEq, Repr

/-- The wording of a fault. -/
def PatternError.message : PatternError → String
  | tooLarge => "Compiled regex exceeds size limit"
  | fault => "regex parse error: " ++ match fault with
    | unexpectedEnd => "incomplete escape or group"
    | lookAround => "look-around is not supported"
    | backreference => "backreferences are not supported"
    | unknownEscape c => "unknown escape of " ++ String.singleton c
    | groupUnclosed => "unclosed group"
    | groupUnopened => "unopened group"
    | groupName => "invalid group name"
    | repeatedName name => "repeated group name " ++ name
    | flag => "invalid flags"
    | nothingToRepeat => "repetition of nothing"
    | repetitionBounds => "invalid repetition bounds"
    | number => "invalid decimal number"
    | hexDigits => "invalid hexadecimal digits"
    | classUnclosed => "unclosed character class"
    | classItem => "invalid item in a character class"
    | classRange => "invalid character class range"
    | wordBoundary => "invalid word boundary"
    | unknownProperty => "unknown property of characters"
    | notText => "pattern can match bytes that are no text"
    | tooNested => "nesting is too deep"
    | tooLarge => ""

/-- The switches of a pattern. -/
inductive Flag where
  | ignoreCase
  | multiLine
  | dotAll
  | lazyFirst
  | unicode
  | crlf
  | ignoreBlanks
deriving DecidableEq, Repr

/-- Switches that are turned on or off, in the order in which they are written. -/
abbrev FlagChange := List (Flag × Bool)

/-- The classes that have a letter of their own. -/
inductive LetterClass where
  | digit
  | blank
  | word
deriving DecidableEq, Repr

/-- A property in a pattern. -/
inductive PropertyQuery where
  | named (name : String)
  | valued (property value : String)
deriving DecidableEq, Repr

/-- A single character; `byte` when it was written as two hexadecimal digits. -/
structure Letter where
  char : Char
  byte : Bool
deriving DecidableEq, Repr

inductive SetOperation where
  | intersection
  | difference
  | symmetricDifference
deriving DecidableEq, Repr

mutual

/-- An item of a bracketed class. -/
inductive ClassItem where
  | letter (l : Letter)
  | range (first last : Letter)
  | ascii (negated : Bool) (ranges : List (Nat × Nat))
  | letterClass (negated : Bool) (kind : LetterClass)
  | property (negated : Bool) (query : PropertyQuery)
  | bracket (negated : Bool) (set : ClassSet)

/-- The inside of a bracketed class. -/
inductive ClassSet where
  | items (list : List ClassItem)
  | operation (kind : SetOperation) (left right : ClassSet)

end

/-- Places that match without taking a character. -/
inductive Anchor where
  | lineStart
  | lineEnd
  | textStart
  | textEnd
  | wordBoundary
  | notWordBoundary
  | wordStart
  | wordEnd
  | wordStartHalf
  | wordEndHalf
deriving DecidableEq, Repr

/-- What the brackets of a group do. -/
inductive GroupKind where
  | capture (index : Nat) (name : Option String)
  | plain (change : FlagChange)
deriving DecidableEq, Repr

/-- A pattern as it is written. -/
inductive Syntax where
  | empty
  | flags (change : FlagChange)
  | letter (l : Letter)
  | dot
  | anchor (kind : Anchor)
  | letterClass (negated : Bool) (kind : LetterClass)
  | property (negated : Bool) (query : PropertyQuery)
  | bracket (negated : Bool) (set : ClassSet)
  | repeated (sub : Syntax) (least : Nat) (most : Option Nat) (greedy : Bool)
  | group (kind : GroupKind) (sub : Syntax)
  | concat (parts : List Syntax)
  | alternation (parts : List Syntax)

/-! ## Nesting -/

mutual

/-- Levels of nesting of an item. -/
def ClassItem.depth : ClassItem → Nat
  | .bracket _ set => set.depth + 1
  | _ => 0

def ClassSet.depth : ClassSet → Nat
  | .items [] => 0
  | .items [item] => item.depth
  | .items list => ClassItem.depthOfAll list + 1
  | .operation _ left right => max left.depth right.depth + 1

def ClassItem.depthOfAll : List ClassItem → Nat
  | [] => 0
  | item :: rest => max item.depth (ClassItem.depthOfAll rest)

end

mutual

/-- Levels of nesting of a pattern. -/
def Syntax.depth : Syntax → Nat
  | .bracket _ set => set.depth + 1
  | .repeated sub _ _ _ => sub.depth + 1
  | .group _ sub => sub.depth + 1
  | .concat parts => Syntax.depthOfAll parts + 1
  | .alternation parts => Syntax.depthOfAll parts + 1
  | _ => 0

def Syntax.depthOfAll : List Syntax → Nat
  | [] => 0
  | part :: rest => max part.depth (Syntax.depthOfAll rest)

end

/-- The concatenation of parts; a single part is itself. -/
def Syntax.ofParts : List Syntax → Syntax
  | [] => .empty
  | [part] => part
  | parts => .concat parts

/-- The alternation of branches; a single branch is itself. -/
def Syntax.ofBranches : List Syntax → Syntax
  | [] => .empty
  | [part] => part
  | parts => .alternation parts

end Paperwork.Pattern
