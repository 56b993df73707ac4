import Paperwork.Pattern.Program

/-!
# Searching

All ways to match run side by side over the text, in the order of their priority: of the matches
that start leftmost the one with the highest priority wins. `Program.matches` lists the successive
matches of a text; an empty match is not taken where the match before it ended.
-/

namespace Paperwork.Pattern

open Paperwork.Unicode

/-- A match: where it starts and stops, and the spans of the groups that took part. -/
structure Match where
  start : Nat
  stop : Nat
  groups : List (Option (Nat × Nat))
deriving DecidableEq, Repr, Inhabited

/-- A place in a text: its number, the character before it and the characters after it. -/
structure Spot where
  position : Nat
  before : Option Char
  after : List Char

/-- Whether a character belongs to words. -/
def isWordChar (ascii : Bool) (c : Char) : Bool :=
  if c.val < 128 then c.isAlphanum || c == '_'
  else !ascii && wordCodes.contains c.toNat

/-- Whether a place has the property that a step asks for. -/
def Place.holds (s : Spot) : Place → Bool
  | textStart => s.before.isNone
  | textEnd => s.after.isEmpty
  | lineStart crlf => match s.before with
    | none => true
    | some c => c == '\n' || (crlf && c == '\r' && s.after.head? != some '\n')
  | lineEnd crlf => match s.after with
    | [] => true
    | c :: _ =>
      if crlf then c == '\r' || (c == '\n' && s.before != some '\r') else c == '\n'
  | wordBoundary ascii => before ascii != after ascii
  | notWordBoundary ascii => before ascii == after ascii
  | wordStart ascii => !before ascii && after ascii
  | wordEnd ascii => before ascii && !after ascii
  | wordStartHalf ascii => !before ascii
  | wordEndHalf ascii => !after ascii
where
  before (ascii : Bool) : Bool := s.before.any (isWordChar ascii)
  after (ascii : Bool) : Bool := s.after.head?.any (isWordChar ascii)

/-- The places saved so far, two for each group. -/
abbrev Slots := Array (Option Nat)

/-- A way to match: the step it has reached and its saved places. -/
structure Thread where
  step : Nat
  slots : Slots

/-- Ways to match in the order of priority, and the round in which each step was last reached. -/
structure Threads where
  list : Array Thread
  reached : Array Nat

/--
Follows steps that take no character, depth first and in the order of priority. A step that was
already reached in this round is not taken again.
-/
def follow (p : Program) (spot : Spot) (round : Nat) :
    Nat → List Thread → Threads → Threads
  | 0, _, ts => ts
  | _, [], ts => ts
  | fuel + 1, t :: pending, ts =>
    if ts.reached[t.step]? == some round then follow p spot round fuel pending ts
    else
      let ts := { ts with reached := ts.reached.setIfInBounds t.step round }
      match p.steps[t.step]? with
      | some (.split targets) =>
        follow p spot round fuel (targets.map (fun s => ⟨s, t.slots⟩) ++ pending) ts
      | some (.save slot next) =>
        follow p spot round fuel
          (⟨next, t.slots.setIfInBounds slot (some spot.position)⟩ :: pending) ts
      | some (.place place next) =>
        if place.holds spot then follow p spot round fuel (⟨next, t.slots⟩ :: pending) ts
        else follow p spot round fuel pending ts
      | some _ => follow p spot round fuel pending { ts with list := ts.list.push t }
      | none => follow p spot round fuel pending ts

/-- Enough fuel to follow every way out of every step once. -/
def Program.fuel (p : Program) : Nat :=
  p.steps.foldl (fun n s => match s with
    | .split targets => n + targets.length + 1
    | _ => n + 2) 2

/-- The saved places of the first way that has reached the end, and the ways before it. -/
def finished (p : Program) : List Thread → Option Slots × List Thread
  | [] => (none, [])
  | t :: rest => match p.steps[t.step]? with
    | some .accept => (some t.slots, [])
    | _ =>
      let (found, before) := finished p rest
      (found, t :: before)

/-- Moves ways to match over a character. -/
def advance (p : Program) (c : Char) (spot : Spot) (round fuel : Nat) :
    List Thread → Threads → Threads
  | [], ts => ts
  | t :: rest, ts => match p.steps[t.step]? with
    | some (.chars set next) =>
      if set.contains c.toNat then
        advance p c spot round fuel rest (follow p spot round fuel [⟨next, t.slots⟩] ts)
      else advance p c spot round fuel rest ts
    | _ => advance p c spot round fuel rest ts

/-- What is known at a place: the best match so far, the ways that go on, and the marks. -/
structure Front where
  found : Option Slots
  alive : List Thread
  reached : Array Nat

/-- Starts a new way at a place, unless a match was found, and picks out the ways at their end. -/
def arrive (p : Program) (fuel : Nat) (spot : Spot) (found : Option Slots) (ts : Threads) : Front :=
  let ts := match found with
    | some _ => ts
    | none =>
      follow p spot (spot.position + 1) fuel [⟨p.start, Array.replicate (2 * p.groups) none⟩] ts
  let (here, alive) := finished p ts.list.toList
  ⟨here <|> found, alive, ts.reached⟩

/-- Runs all ways from a place on. -/
def run (p : Program) (fuel : Nat) (position : Nat) (before : Option Char) (found : Option Slots)
    (ts : Threads) : List Char → Option Slots
  | [] => (arrive p fuel ⟨position, before, []⟩ found ts).found
  | c :: rest =>
    let front := arrive p fuel ⟨position, before, c :: rest⟩ found ts
    if front.alive.isEmpty && front.found.isSome then front.found
    else
      let next := advance p c ⟨position + 1, some c, rest⟩ (position + 2) fuel front.alive
        ⟨#[], front.reached⟩
      run p fuel (position + 1) (some c) front.found next rest

/-- The spans of the groups. -/
def spansOf (slots : Slots) (groups : Nat) : List (Option (Nat × Nat)) :=
  (List.range groups).map fun i =>
    match slots[2 * i]?, slots[2 * i + 1]? with
    | some (some a), some (some b) => some (a, b)
    | _, _ => none

/-- The leftmost match from a place on. -/
def Program.find? (p : Program) (position : Nat) (before : Option Char) (after : List Char) :
    Option Match :=
  let none' := Array.replicate p.steps.size 0
  match run p p.fuel position before none ⟨#[], none'⟩ after with
  | none => none
  | some slots =>
    let groups := spansOf slots p.groups
    match groups.head? with
    | some (some (a, b)) => some ⟨a, b, groups⟩
    | _ => none

/-- The character before the rest of a text that begins some characters further on. -/
def beforeDrop (before : Option Char) (after : List Char) : Nat → Option Char
  | 0 => before
  | n + 1 => after[n]?

/--
The successive matches from a place on. An empty match where the match before it ended is passed
over by searching again one character further.
-/
def matchesFrom (p : Program) : Nat → Nat → Option Char → List Char → Option Nat → List Match
  | 0, _, _, _, _ => []
  | fuel + 1, position, before, after, last =>
    match p.find? position before after with
    | none => []
    | some m =>
      if m.start == m.stop && some m.stop == last then
        match after with
        | [] => []
        | c :: rest => match p.find? (position + 1) (some c) rest with
          | none => []
          | some m => m :: goOn fuel m position before after
      else m :: goOn fuel m position before after
where
  goOn (fuel : Nat) (m : Match) (position : Nat) (before : Option Char) (after : List Char) :
      List Match :=
    let n := m.stop - position
    matchesFrom p fuel m.stop (beforeDrop before after n) (after.drop n) (some m.stop)

/-- The successive matches in a text. -/
def Program.matches (p : Program) (text : List Char) : List Match :=
  matchesFrom p (text.length + 2) 0 none text none

end Paperwork.Pattern
