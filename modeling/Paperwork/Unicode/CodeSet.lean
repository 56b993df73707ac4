/-!
# Sets of code points

A set is a list of inclusive ranges in increasing order, no two of which touch. Tables are packed
in letters: a number is written in base 26, its last digit as a small letter and the digits before
it as capitals.
-/

namespace Paperwork.Unicode

/-- The last code point. -/
def lastCode : Nat := 0x10FFFF

/-- Reads the numbers of a packed table, which may be cut into several texts anywhere. -/
def unpack (packed : List String) : Array Nat :=
  ((String.join packed).toList.foldl (fun (state : Nat × Array Nat) c =>
    if 'a' ≤ c then (0, state.2.push (state.1 * 26 + (c.toNat - 97)))
    else (state.1 * 26 + (c.toNat - 65), state.2)) (0, #[])).2

/-- A set of code points. -/
structure CodeSet where
  ranges : List (Nat × Nat)
deriving Repr, DecidableEq, Inhabited

namespace CodeSet

def empty : CodeSet := ⟨[]⟩

def all : CodeSet := ⟨[(0, lastCode)]⟩

/-- The code points of one range. -/
def range (first last : Nat) : CodeSet := ⟨[(first, last)]⟩

def single (c : Nat) : CodeSet := range c c

def isEmpty (s : CodeSet) : Bool := s.ranges.isEmpty

/-- Whether a code point is in one of the ranges; later ranges hold larger code points only. -/
def inRanges (c : Nat) : List (Nat × Nat) → Bool
  | [] => false
  | (first, last) :: rest => first ≤ c && (c ≤ last || inRanges c rest)

def contains (s : CodeSet) (c : Nat) : Bool := inRanges c s.ranges

/-- Merges ranges in increasing order of their first points. -/
def merge : List (Nat × Nat) → List (Nat × Nat)
  | [] => []
  | r :: rest => go r rest
where
  go (r : Nat × Nat) : List (Nat × Nat) → List (Nat × Nat)
    | [] => [r]
    | s :: rest =>
      if s.1 ≤ r.2 + 1 then go (r.1, max r.2 s.2) rest else r :: go s rest

/-- The set of the code points of any ranges. -/
def ofRanges (ranges : List (Nat × Nat)) : CodeSet :=
  ⟨merge (ranges.mergeSort fun a b => a.1 ≤ b.1)⟩

def union (a b : CodeSet) : CodeSet := ofRanges (a.ranges ++ b.ranges)

def unions (sets : List CodeSet) : CodeSet := ofRanges (sets.flatMap (·.ranges))

/-- The code points outside of a set. -/
def complement (s : CodeSet) : CodeSet :=
  ⟨go 0 s.ranges⟩
where
  go (start : Nat) : List (Nat × Nat) → List (Nat × Nat)
    | [] => if start ≤ lastCode then [(start, lastCode)] else []
    | (a, b) :: rest =>
      if start < a then (start, a - 1) :: go (b + 1) rest else go (b + 1) rest

def inter (a b : CodeSet) : CodeSet := (a.complement.union b.complement).complement

def diff (a b : CodeSet) : CodeSet := a.inter b.complement

/-- The code points of a set that are characters. -/
def characters (s : CodeSet) : CodeSet := s.diff (range 0xD800 0xDFFF)

def symmDiff (a b : CodeSet) : CodeSet := (a.union b).diff (a.inter b)

/-- The set that packed gaps and lengths describe. -/
def ofPacked (packed : List String) : CodeSet :=
  ⟨go 0 (unpack packed).toList⟩
where
  go (start : Nat) : List Nat → List (Nat × Nat)
    | gap :: length :: rest =>
      (start + gap, start + gap + length) :: go (start + gap + length + 1) rest
    | _ => []

end CodeSet

end Paperwork.Unicode
