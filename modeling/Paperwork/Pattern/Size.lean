import Std.Data.HashMap
import Paperwork.Pattern.Node

/-!
# The size of a pattern

A pattern is refused when an automaton over encoded bytes that it spells would take more than ten
mebibytes. There are two of them, one that reads forward and one that reads backward and has no
groups. Building one is told by a tally of its states: states are numbered in the order in which
they are made, each takes 32 bytes, each byte range that it lists another eight, and each way on
that it lists another four.
-/

namespace Paperwork.Pattern

open Paperwork.Unicode

/-- Bytes that an automaton may take: ten mebibytes. -/
def maxSize : Nat := 10485760

/-- An automaton in the course of being built: its states, and the bytes of what they list. -/
structure Tally where
  states : Nat
  listed : Nat
deriving DecidableEq, Repr

namespace Tally

def size (t : Tally) : Nat := 32 * t.states + t.listed

def isTooLarge (t : Tally) : Bool := maxSize < t.size

/-- Adds a state that lists a number of byte ranges. -/
def add (t : Tally) (ranges : Nat) : Tally := ⟨t.states + 1, t.listed + 8 * ranges⟩

/-- Lists ways on in states that are there. -/
def list (t : Tally) (ways : Nat) : Tally := ⟨t.states, t.listed + 4 * ways⟩

end Tally

/-! ## Classes -/

/-- Encoding lengths by their last code points. -/
def lengthBounds : List Nat := [0x7F, 0x7FF, 0xFFFF, lastCode]

/-- The bytes of a code point's encoding. -/
def encodingOf (c : Nat) : List Nat :=
  if c < 0x80 then [c]
  else if c < 0x800 then [0xC0 + c / 64, 0x80 + c % 64]
  else if c < 0x10000 then [0xE0 + c / 4096, 0x80 + c / 64 % 64, 0x80 + c % 64]
  else [0xF0 + c / 262144, 0x80 + c / 4096 % 64, 0x80 + c / 64 % 64, 0x80 + c % 64]

/-- Cuts a range behind the points that are given in increasing order. -/
def cutBehind : List Nat → Nat × Nat → List (Nat × Nat)
  | [], r => [r]
  | p :: rest, (a, b) =>
    if b ≤ p then [(a, b)]
    else if p < a then cutBehind rest (a, b)
    else (a, p) :: cutBehind rest (p + 1, b)

/--
Cuts a range of code points of one encoding length so that in each part the bytes vary
independently: the last bytes run through all values wherever a byte before them varies.
-/
def cutAligned : Nat → Nat → Nat × Nat → List (Nat × Nat)
  | 0, _, r => [r]
  | n + 1, unit, (a, b) =>
    if a / unit == b / unit then [(a, b)]
    else if a % unit != 0 then
      let cut := (a / unit + 1) * unit
      (a, cut - 1) :: cutAligned n unit (cut, b)
    else if b % unit != unit - 1 then
      let cut := b / unit * unit
      cutAligned n unit (a, cut - 1) ++ [(cut, b)]
    else [(a, b)]

/-- The byte ranges of encodings, first byte first. -/
abbrev ByteRanges := List (Nat × Nat)

/-- The encodings of a set in increasing order. -/
def encodings (set : CodeSet) : List ByteRanges :=
  let parts := set.ranges.flatMap fun r => (cutBehind lengthBounds r).flatMap fun r =>
    if r.2 < 0x80 then [r]
    else ((cutAligned 3 64 r).flatMap (cutAligned 3 4096)).flatMap (cutAligned 3 262144)
  parts.map fun (a, b) => (encodingOf a).zip (encodingOf b)

/-- The slot of a list of numbers in a memory with a number of slots. -/
def slotOf (slots : UInt64) (numbers : List Nat) : UInt64 :=
  numbers.foldl (fun h n => (h ^^^ UInt64.ofNat n) * 1099511628211) 14695981039346656037 % slots

/-- States that may be used again. A slot remembers only the last state that was put there. -/
abbrev Memory := Std.HashMap UInt64 (List Nat × Nat)

/-- The state that a memory holds for a list of numbers. -/
def Memory.find? (m : Memory) (slot : UInt64) (key : List Nat) : Option Nat :=
  match m[slot]? with
  | some (known, state) => if known == key then some state else none
  | none => none

/-! ### Backward -/

/-- The states of one encoding that leads to a state: its bytes are read from the last one on. -/
def backwardStates : ByteRanges → Nat → Memory × Tally → Memory × Tally
  | [], _, acc => acc
  | (a, b) :: rest, goal, (memory, t) =>
    let key := [goal, a, b]
    let slot := slotOf 1000 key
    match memory.find? slot key with
    | some state => backwardStates rest state (memory, t)
    | none => backwardStates rest t.states (memory.insert slot (key, t.states), t.add 0)

/-- A class read backward: one state lists a way on for each encoding. -/
def classBackward (set : CodeSet) (t : Tally) : Tally :=
  let goal := t.states + 1
  let (_, t) := (encodings set).foldl (fun acc ranges =>
    let (memory, t) := backwardStates ranges goal acc
    (memory, t.list 1)) ((∅ : Memory), (t.add 0).add 0)
  t

/-! ### Forward -/

/--
A state that still gets byte ranges: those that are done, three numbers each, and the last one,
whose goal is not known yet.
-/
structure OpenState where
  done : List Nat
  last : Option (Nat × Nat)

/-- Gives the last byte range its goal. -/
def OpenState.close (s : OpenState) (goal : Nat) : OpenState :=
  match s.last with
  | some (a, b) => ⟨s.done ++ [a, b, goal], none⟩
  | none => s

/-- The states of a class that are still open, the deepest one first, and those that are done. -/
structure ClassStates where
  opened : List OpenState
  memory : Memory
  tally : Tally

namespace ClassStates

/-- The number of the state for some byte ranges: one that is there, or a new one. -/
def done (s : ClassStates) (key : List Nat) : Nat × ClassStates :=
  let slot := slotOf 10000 key
  match s.memory.find? slot key with
  | some state => (state, s)
  | none =>
    let state := s.tally.states
    (state, { s with
      memory := s.memory.insert slot (key, state), tally := s.tally.add (key.length / 3) })

/-- Closes all open states but a number of the outermost ones, and the last range of those. -/
def closeBehind (depth : Nat) : Nat → Nat → ClassStates → ClassStates
  | 0, _, s => s
  | fuel + 1, goal, s =>
    match s.opened with
    | [] => s
    | o :: rest =>
      if rest.length < depth then { s with opened := o.close goal :: rest }
      else
        let (state, s) := { s with opened := rest }.done (o.close goal).done
        closeBehind depth fuel state s

/-- The number of open states whose last ranges an encoding starts with, outermost first. -/
def sharedDepth : ByteRanges → List OpenState → Nat
  | r :: ranges, o :: opened => if o.last == some r then sharedDepth ranges opened + 1 else 0
  | _, _ => 0

/-- Adds an encoding, all encodings before it being less. -/
def addEncoding (goal : Nat) (s : ClassStates) (ranges : ByteRanges) : ClassStates :=
  let depth := sharedDepth ranges s.opened.reverse
  let s := s.closeBehind (depth + 1) 5 goal
  match s.opened, ranges.drop depth with
  | o :: rest, r :: more =>
    let deeper := more.foldl (fun opened r => ⟨[], some r⟩ :: opened) []
    { s with opened := deeper ++ { o with last := some r } :: rest }
  | _, _ => s

end ClassStates

/-- A class read forward: encodings share their beginnings, and states that are alike are one. -/
def classForward (set : CodeSet) (t : Tally) : Tally :=
  let goal := t.states
  let s := (encodings set).foldl (ClassStates.addEncoding goal)
    ⟨[⟨[], none⟩], ∅, t.add 0⟩
  (s.closeBehind 0 5 goal).tally

/-- A class of characters. One of ASCII characters is a single state. -/
def classTally (backward : Bool) (set : CodeSet) (t : Tally) : Tally :=
  if set.ranges.all (·.2 < 128) then (t.add 0).add set.ranges.length
  else if backward then classBackward set t
  else classForward set t

/-! ## Alternations of texts -/

/-- The bytes of a text. -/
def textBytes (cs : List Char) : List UInt8 := (String.ofList cs).toUTF8.toList

/-- Puts the tails of words together by their first bytes, in the order of first appearance. -/
def groupByHead : List (List UInt8) → List (UInt8 × List (List UInt8))
  | [] => []
  | [] :: rest => groupByHead rest
  | (x :: tail) :: rest =>
    let groups := groupByHead rest
    match groups.lookup x with
    | some tails => (x, tail :: tails) :: groups.filter (·.1 != x)
    | none => (x, [tail]) :: groups

/-- Cuts words behind the empty ones, each of which ends a group of words. -/
def chunksOf (words : List (List UInt8)) : List (List (List UInt8)) :=
  words.splitBy fun a _ => !a.isEmpty

/-- The number of empty words. Those before all other words count as one. -/
def endCount (words : List (List UInt8)) : Nat :=
  (if words.head? == some [] then 1 else 0)
    + ((words.dropWhile List.isEmpty).filter List.isEmpty).length

/--
The tree of words: the words of a group share their beginnings. A node is one state for each group
that is not empty, and a state that lists the groups and the ends between them.
-/
def wordTree : Nat → List (List UInt8) → Tally → Tally
  | 0, _, t => t
  | fuel + 1, words, t =>
    if words.all List.isEmpty then t
    else
      let chunks := (chunksOf words).map groupByHead
      let filled := chunks.filter (!·.isEmpty)
      let t := filled.foldl (fun t groups =>
        let t := groups.foldl (fun t group => wordTree fuel group.2 t) t
        t.add (if groups.length == 1 then 0 else groups.length)) t
      (t.add 0).list (filled.length + endCount words)

/-- The words of branches that are all texts, if there are at least two. -/
def wordsOf? (backward : Bool) (branches : List Node) : Option (List (List UInt8)) :=
  if branches.length < 2 then none
  else branches.mapM fun
    | .text cs => some (if backward then (textBytes cs).reverse else textBytes cs)
    | _ => none

/-- The states of an alternation of words. -/
def wordsTally (words : List (List UInt8)) (t : Tally) : Tally :=
  wordTree (words.foldl (fun n w => max n w.length) 0 + 1) words (t.add 0)

/-! ## Nodes -/

/-- The states of a node, and whether the last one is a fork, which lists where it goes on. -/
structure Part where
  tally : Tally
  forks : Bool

/-- The tally once a part goes on to another state. -/
def Part.goOn (p : Part) : Tally := if p.forks then p.tally.list 1 else p.tally

/-- Goes on with the same part a number of times, as long as the automaton is not too large. -/
def Part.again (body : Tally → Part) : Nat → Part → Part
  | 0, p => p
  | n + 1, p => if p.tally.isTooLarge then p else Part.again body n (body p.goOn)

/-- The same part a number of times. -/
def Part.times (body : Tally → Part) (n : Nat) (t : Tally) : Part :=
  match n with
  | 0 => ⟨t.add 0, false⟩
  | n + 1 => Part.again body n (body t)

/-- Goes on with a part up to a number of times: each time a fork may leave instead. -/
def Part.upTo (body : Tally → Part) : Nat → Part → Part
  | 0, p => p
  | n + 1, p =>
    if p.tally.isTooLarge then p
    else
      let next := body (p.goOn.add 0)
      Part.upTo body n { next with tally := next.tally.list 2 }

/-- A part that is repeated. -/
def Part.repeated (body : Tally → Part) (maybeEmpty : Bool) (least : Nat) (most : Option Nat)
    (t : Tally) : Part :=
  match least, most with
  | 0, some 1 => ⟨(body (t.add 0)).goOn.add 0 |>.list 2, false⟩
  | 0, none =>
    if maybeEmpty then ⟨((body t).goOn.add 0).add 0 |>.add 0 |>.list 4, false⟩
    else ⟨(body (t.add 0)).goOn.list 1, true⟩
  | least, none => ⟨((Part.times body least t).goOn.add 0).list 1, true⟩
  | least, some most =>
    let first := Part.times body least t
    if least == most then first
    else
      let rest := Part.upTo body (most - least) { first with tally := first.tally.add 0 }
      ⟨rest.goOn, false⟩

mutual

/-- The states of a node. -/
def Node.part (backward : Bool) : Node → Tally → Part
  | .empty, t => ⟨t.add 0, false⟩
  | .text cs, t => ⟨{ t with states := t.states + (textBytes cs).length }, false⟩
  | .chars set, t => ⟨classTally backward set t, false⟩
  | .place _, t => ⟨t.add 0, false⟩
  | .repeated sub least most _, t =>
    Part.repeated (fun t => sub.part backward t) sub.maybeEmpty least most t
  | .capture _ _ sub, t =>
    if backward then sub.part backward t
    else ⟨(sub.part backward (t.add 0)).goOn.add 0, false⟩
  | .concat parts, t => Node.partOfAll backward parts t
  | .alternation branches, t => match wordsOf? backward branches with
    | some words => ⟨wordsTally words t, false⟩
    | none => ⟨Node.tallyOfEach backward 0 branches t, false⟩

/-- The states of a concatenation, from its end on if it is read backward. -/
def Node.partOfAll (backward : Bool) : List Node → Tally → Part
  | [], t => ⟨t.add 0, false⟩
  | [part], t => part.part backward t
  | part :: rest, t =>
    if backward then part.part backward (Node.partOfAll backward rest t).goOn
    else Node.partOfAll backward rest (part.part backward t).goOn

/-- The states of branches. Those that fork and join are made after the second branch. -/
def Node.tallyOfEach (backward : Bool) (index : Nat) : List Node → Tally → Tally
  | [], t => t
  | branch :: rest, t =>
    let t := (branch.part backward t).goOn.list 1
    let t := if index == 1 then (t.add 0).add 0 else t
    Node.tallyOfEach backward (index + 1) rest t

end

mutual

/-- Whether every match of a node starts at a place of a kind. -/
def Node.opensAt (p : Place) : Node → Bool
  | .place q => p == q
  | .repeated sub least _ _ => 0 < least && sub.opensAt p
  | .capture _ _ sub => sub.opensAt p
  | .concat parts => Node.anyOpensAt p parts
  | .alternation branches => Node.allOpenAt p branches
  | _ => false

def Node.anyOpensAt (p : Place) : List Node → Bool
  | [] => false
  | part :: rest => part.opensAt p || (part.onlyEmpty && Node.anyOpensAt p rest)

def Node.allOpenAt (p : Place) : List Node → Bool
  | [] => true
  | branch :: rest => branch.opensAt p && Node.allOpenAt p rest

end

mutual

/-- Whether every match of a node ends at a place of a kind. -/
def Node.closesAt (p : Place) : Node → Bool
  | .place q => p == q
  | .repeated sub least _ _ => 0 < least && sub.closesAt p
  | .capture _ _ sub => sub.closesAt p
  | .concat parts => Node.anyClosesAt p parts
  | .alternation branches => Node.allCloseAt p branches
  | _ => false

def Node.anyClosesAt (p : Place) : List Node → Bool
  | [] => false
  | part :: rest => Node.anyClosesAt p rest || (Node.allOnlyEmpty rest && part.closesAt p)

def Node.allCloseAt (p : Place) : List Node → Bool
  | [] => true
  | branch :: rest => branch.closesAt p && Node.allCloseAt p rest

end

/--
The automaton of a pattern in one direction. Unless matches are bound to where it starts to read,
it begins with a loop over any bytes; reading forward it also marks the whole match.
-/
def Node.tally (backward : Bool) (n : Node) : Tally :=
  let bound := if backward then n.closesAt .textEnd else n.opensAt .textStart
  let start : Tally := if bound then ⟨1, 0⟩ else (⟨2, 0⟩ : Tally).add 1 |>.list 2
  if backward then (n.part backward start).goOn.add 0
  else ((n.part backward (start.add 0)).goOn.add 0).add 0

/-- Whether a pattern is an alternation of so many texts that it needs no automaton. -/
def Node.isWordList : Node → Bool
  | .alternation branches => 3000 ≤ branches.length && (wordsOf? false branches).isSome
  | _ => false

/-- Whether a pattern is refused for its size. -/
def Node.isTooLarge (n : Node) : Bool :=
  !n.isWordList && ((n.tally false).isTooLarge || (n.tally true).isTooLarge)

end Paperwork.Pattern
