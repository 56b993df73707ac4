import Paperwork.Pattern.Parser
import Paperwork.Pattern.Size

/-!
# Pattern programs

A pattern compiles to steps over characters. Where a step has several continuations they are listed
by priority: the first branch of an alternation first, more repetitions before fewer unless the
repetition is lazy. Code is laid out backwards, so that each step knows the step after it.
-/

namespace Paperwork.Pattern

open Paperwork.Unicode

/-- A step of a program. -/
inductive Step where
  | chars (set : CodeSet) (next : Nat)
  | place (p : Place) (next : Nat)
  | save (slot : Nat) (next : Nat)
  | split (targets : List Nat)
  | accept

/-- A program: its steps, its first step and the names of its groups. -/
structure Program where
  steps : Array Step
  start : Nat
  groups : Nat
  names : List (String × Nat)

/-- Lays out code that goes on at a given step: its first step and all code so far. -/
abbrev Layout := Nat → Array Step → Nat × Array Step

/-- Adds one step. -/
def add (step : Step) (code : Array Step) : Nat × Array Step := (code.size, code.push step)

/-- The continuations of an optional part. -/
def choice (greedy : Bool) (more done : Nat) : Step :=
  .split (if greedy then [more, done] else [done, more])

/-- The same code a number of times. -/
def times (body : Layout) : Nat → Layout
  | 0, next, code => (next, code)
  | n + 1, next, code =>
    let (rest, code) := times body n next code
    body rest code

/-- A part any number of times, at least once: the code goes back to its first step. -/
def loop (body : Layout) (greedy : Bool) : Layout := fun next code =>
  let back := code.size
  let (first, code) := body back (code.push .accept)
  (first, code.setIfInBounds back (choice greedy first next))

/-- A part any number of times; the choice comes before the part. -/
def star (body : Layout) (greedy : Bool) : Layout := fun next code =>
  let back := code.size
  let (first, code) := body back (code.push .accept)
  (back, code.setIfInBounds back (choice greedy first next))

/-- A part up to a number of times, each time only after the time before it. -/
def upTo (body : Layout) (greedy : Bool) : Nat → Layout
  | 0, next, code => (next, code)
  | n + 1, next, code =>
    let (rest, code) := upTo body greedy n next code
    let (first, code) := body rest code
    add (choice greedy first next) code

/-- Characters one after the other. -/
def textLayout (cs : List Char) : Layout := fun next code =>
  cs.reverse.foldl (fun (next, code) c => add (.chars (.single c.toNat) next) code) (next, code)

mutual

/-- The code of a node. -/
def Node.layout : Node → Layout
  | .empty => fun next code => (next, code)
  | .text cs => textLayout cs
  | .chars set => fun next code => add (.chars set next) code
  | .place p => fun next code => add (.place p next) code
  | .capture index _ sub => fun next code =>
    let (stop, code) := add (.save (2 * index + 1) next) code
    let (first, code) := sub.layout stop code
    add (.save (2 * index) first) code
  | .concat parts => Node.layoutAll parts
  | .alternation parts => fun next code =>
    let (firsts, code) := Node.layoutEach parts next code
    add (.split firsts) code
  | .repeated sub least most greedy => fun next code =>
    let body : Layout := fun next code => sub.layout next code
    match most with
    | some most =>
      let (rest, code) := upTo body greedy (most - least) next code
      times body least rest code
    | none =>
      if least == 0 then
        if sub.maybeEmpty then
          let (first, code) := loop body greedy next code
          add (choice greedy first next) code
        else star body greedy next code
      else
        let (first, code) := loop body greedy next code
        times body (least - 1) first code

def Node.layoutAll : List Node → Layout
  | [] => fun next code => (next, code)
  | part :: rest => fun next code =>
    let (first, code) := Node.layoutAll rest next code
    part.layout first code

def Node.layoutEach : List Node → Nat → Array Step → List Nat × Array Step
  | [], _, code => ([], code)
  | part :: rest, next, code =>
    let (first, code) := part.layout next code
    let (firsts, code) := Node.layoutEach rest next code
    (first :: firsts, code)

end

mutual

/-- The groups of a node with their names. -/
def Node.captures : Node → List (Nat × Option String)
  | .capture index name sub => (index, name) :: sub.captures
  | .repeated sub _ _ _ => sub.captures
  | .concat parts => Node.capturesOfAll parts
  | .alternation parts => Node.capturesOfAll parts
  | _ => []

def Node.capturesOfAll : List Node → List (Nat × Option String)
  | [] => []
  | part :: rest => part.captures ++ Node.capturesOfAll rest

end

/-- The program of a node; the whole match is group zero. -/
def Program.ofNode (node : Node) : Program :=
  let whole := Node.capture 0 none node
  let captures := whole.captures
  let (stop, code) := add .accept #[]
  let (start, code) := whole.layout stop code
  { steps := code
    start := start
    groups := (captures.map (·.1)).foldl max 0 + 1
    names := captures.filterMap fun (index, name) => name.map fun n => (n, index) }

/-- Compiles a pattern. -/
def Program.compile (pattern : String) : Except PatternError Program := do
  let tree ← parse pattern
  let (node, _) ← lower .initial tree
  if node.isTooLarge then throw .tooLarge else pure (.ofNode node)

end Paperwork.Pattern
