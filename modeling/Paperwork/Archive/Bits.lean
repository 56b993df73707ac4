/-!
# Bits and prefix codes

Packed data is read bit by bit, each byte from its low end or from its high end. A prefix code is
given by the lengths of its words: words of one length follow each other in the order of their
symbols, and longer ones come after shorter ones.
-/

namespace Paperwork.Archive

/-- Why reading stops: the data ends early, breaks the format, or is not of the format at all. -/
inductive Halt where
  | short
  | damaged
  | foreign
deriving DecidableEq, Repr

/-- Bytes as bits. -/
structure BitSource where
  data : ByteArray
  /-- Whether the high end of a byte comes first. -/
  highFirst : Bool

namespace BitSource

/-- The bit at a place. -/
def bit? (s : BitSource) (place : Nat) : Except Halt Nat :=
  match s.data[place / 8]? with
  | some b =>
    let shift := if s.highFirst then 7 - place % 8 else place % 8
    .ok ((b.toNat >>> shift) % 2)
  | none => .error .short

/-- The number that some bits spell, in the order of the bits of a byte. -/
def bits? (s : BitSource) (place : Nat) : Nat → Except Halt Nat
  | 0 => .ok 0
  | n + 1 => do
    let first ← s.bit? place
    let rest ← s.bits? (place + 1) n
    pure (if s.highFirst then first * Nat.pow 2 n + rest else first + 2 * rest)

end BitSource

/-- A code whose words are given in order by their lengths. -/
structure PrefixCode where
  /-- The number of words of each length from one on, up to the greatest. -/
  counts : List Nat
  /-- The symbols in the order of their words. -/
  symbols : Array Nat

namespace PrefixCode

/-- The code in which each symbol has a word of the given length; zero stands for no word. -/
def ofLengths (lengths : List Nat) : PrefixCode :=
  let sizes := (List.range (max 1 (lengths.foldl max 0))).map (· + 1)
  let symbolsOf (n : Nat) := (lengths.zipIdx.filter (·.1 == n)).map (·.2)
  ⟨sizes.map fun n => lengths.count n, (sizes.flatMap symbolsOf).toArray⟩

/--
Reads a symbol. `first` is the first word of the present length and `index` the place of its symbol;
`word` is what was read so far.
-/
def readWord (s : BitSource) (symbols : Array Nat) :
    List Nat → (word first index place : Nat) → Except Halt (Nat × Nat)
  | [], _, _, _, _ => .error .damaged
  | count :: longer, word, first, index, place => do
    let word := 2 * word + (← s.bit? place)
    if word < first + count then
      match symbols[index + (word - first)]? with
      | some symbol => pure (symbol, place + 1)
      | none => .error .damaged
    else readWord s symbols longer word (2 * (first + count)) (index + count) (place + 1)

/-- Reads a symbol and the place after its word. -/
def read? (code : PrefixCode) (s : BitSource) (place : Nat) : Except Halt (Nat × Nat) :=
  readWord s code.symbols code.counts 0 0 0 place

end PrefixCode

end Paperwork.Archive
