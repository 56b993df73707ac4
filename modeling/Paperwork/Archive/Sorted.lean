import Paperwork.Archive.Bits
import Paperwork.Archive.Checksum

/-!
# Sorted data

Data is a chain of blocks. The runs of a block are shortened and its rotations are sorted; what is
kept are the last bytes of the rotations. They are told by how far each moves to the front among the
bytes of the block, and so are mostly zeros, which are counted. Prefix codes tell the rest; a block
has a few of them and changes between them. The high end of a byte comes first.
-/

namespace Paperwork.Archive.Sorted

/-! ## Marks -/

/-- The bytes that data starts with, but for the digit of its level. -/
def headMark : List Nat := [0x42, 0x5A, 0x68]

/-- The bytes that a block starts with. -/
def blockMark : List Nat := [0x31, 0x41, 0x59, 0x26, 0x53, 0x59]

/-- The bytes behind the last block. -/
def endMark : List Nat := [0x17, 0x72, 0x45, 0x38, 0x50, 0x90]

/-- Reads a mark byte by byte. -/
def readMark (s : BitSource) : List Nat → (place : Nat) → Except Halt Nat
  | [], place => .ok place
  | b :: rest, place => do
    if (← s.bits? place 8) == b then readMark s rest (place + 8) else .error .damaged

/-! ## Codes -/

/-- The number of symbols that are read before the next code has its turn. -/
def groupSize : Nat := 50

/-- The greatest number of bits of a word. -/
def maxLength : Nat := 20

/-- An item of a list, and the list with that item in front. -/
def toFront? {α : Type} (items : List α) (n : Nat) : Option (α × List α) :=
  items[n]?.map fun a => (a, a :: items.eraseIdx n)

/-- Reads which of sixteen bits are set. -/
def readRow (s : BitSource) (place : Nat) : Except Halt (List Nat) := do
  let row ← s.bits? place 16
  pure ((List.range 16).filter fun i => row.testBit (15 - i))

/-- Reads the bytes that a block has: sixteen rows of which empty ones are left out. -/
def readBytes (s : BitSource) (place : Nat) : Except Halt (List UInt8 × Nat) := do
  let rows ← readRow s place
  rows.foldlM (fun (bytes, place) row => do
    let columns ← readRow s place
    pure (bytes ++ columns.map (fun i => UInt8.ofNat (16 * row + i)), place + 16)) ([], place + 16)

/-- Reads a number as one bits that a zero bit closes. -/
def readUnary (s : BitSource) : (bound : Nat) → (place : Nat) → Except Halt (Nat × Nat)
  | 0, _ => .error .damaged
  | bound + 1, place => do
    if (← s.bit? place) == 0 then pure (0, place + 1)
    else
      let (n, place) ← readUnary s bound (place + 1)
      pure (n + 1, place)

/-- Reads the codes of groups, each by how far it moves to the front. -/
def readTurns (s : BitSource) : (groups : Nat) → (order : List Nat) → (place : Nat) →
    Except Halt (List Nat × Nat)
  | 0, _, place => .ok ([], place)
  | groups + 1, order, place => do
    let (n, place) ← readUnary s order.length place
    match toFront? order n with
    | none => .error .damaged
    | some (turn, order) =>
      let (turns, place) ← readTurns s groups order place
      pure (turn :: turns, place)

/-- Reads by how much a length is above or below the one before it. -/
def readLength (s : BitSource) : (fuel length place : Nat) → Except Halt (Nat × Nat)
  | 0, _, _ => .error .damaged
  | fuel + 1, length, place => do
    if length == 0 || maxLength < length then .error .damaged
    else if (← s.bit? place) == 0 then pure (length, place + 1)
    else if (← s.bit? (place + 1)) == 0 then readLength s fuel (length + 1) (place + 2)
    else readLength s fuel (length - 1) (place + 2)

/-- Reads the lengths of the words of a code. -/
def readTable (s : BitSource) : (symbols length place : Nat) → Except Halt (List Nat × Nat)
  | 0, _, place => .ok ([], place)
  | symbols + 1, length, place => do
    let (length, place) ← readLength s (8 * s.data.size) length place
    let (lengths, place) ← readTable s symbols length place
    pure (length :: lengths, place)

/-- Reads the codes of a block. -/
def readCodes (s : BitSource) (symbols : Nat) : (codes place : Nat) →
    Except Halt (List PrefixCode × Nat)
  | 0, place => .ok ([], place)
  | codes + 1, place => do
    let (lengths, place) ← readTable s symbols (← s.bits? place 5) (place + 5)
    let (others, place) ← readCodes s symbols codes place
    pure (.ofLengths lengths :: others, place)

/-! ## Symbols -/

/-- Reads symbols of a code, and whether the last symbol of the block was met. -/
def readGroup (s : BitSource) (stop : Nat) (code : PrefixCode) : (left place : Nat) → Array Nat →
    Except Halt (Bool × Nat × Array Nat)
  | 0, place, symbols => .ok (false, place, symbols)
  | left + 1, place, symbols => do
    let (symbol, place) ← code.read? s place
    if symbol == stop then pure (true, place, symbols)
    else readGroup s stop code left place (symbols.push symbol)

/-- Reads the symbols of a block up to its last one. -/
def readGroups (s : BitSource) (stop : Nat) : List PrefixCode → (place : Nat) → Array Nat →
    Except Halt (Array Nat × Nat)
  | [], _, _ => .error .damaged
  | code :: codes, place, symbols => do
    let (stopped, place, symbols) ← readGroup s stop code groupSize place symbols
    if stopped then pure (symbols, place) else readGroups s stop codes place symbols

/-- What symbols told so far. -/
structure Told where
  /-- The bytes of the block, those that came last in front. -/
  order : List UInt8
  out : ByteArray
  /-- How often the byte in front comes again. -/
  run : Nat
  /-- What the next symbol of a count stands for. -/
  weight : Nat

namespace Told

/-- Ends a count. -/
def settle? (bound : Nat) (t : Told) : Option Told :=
  match t.order with
  | [] => none
  | front :: _ =>
    if bound < t.out.size + t.run then none
    else some ⟨t.order, Nat.repeat (·.push front) t.run t.out, 0, 1⟩

/-- Takes a symbol. The first two count in twos, with digits one and two; others are moves. -/
def take? (bound : Nat) (t : Told) (symbol : Nat) : Option Told :=
  if symbol < 2 then
    if t.weight < 2097152 then
      some ⟨t.order, t.out, t.run + (symbol + 1) * t.weight, 2 * t.weight⟩
    else none
  else do
    let t ← t.settle? bound
    let (b, order) ← toFront? t.order (symbol - 1)
    if t.out.size < bound then some ⟨order, t.out.push b, 0, 1⟩ else none

end Told

/-- The last bytes that symbols tell. -/
def lastBytes? (bound : Nat) (bytes : List UInt8) (symbols : Array Nat) : Option ByteArray := do
  let t ← symbols.foldlM (Told.take? bound) ⟨bytes, .empty, 0, 1⟩
  pure (← t.settle? bound).out

/-! ## Blocks -/

/-- The places of bytes in the order of the bytes. -/
def sortedPlaces (bytes : ByteArray) : Array Nat :=
  let rows := bytes.toList.zipIdx.foldl (fun rows (b, place) => rows.modify b.toNat (·.push place))
    (Array.replicate 256 #[])
  rows.flatten

/-- Collects bytes from place to place. -/
def follow (bytes : ByteArray) (next : Array Nat) : (left place : Nat) → ByteArray → ByteArray
  | 0, _, out => out
  | left + 1, place, out =>
    follow bytes next left (next[place]?.getD 0) (out.push (bytes[place]?.getD 0))

/-- The bytes whose sorted rotations end as given; they are the rotation at the place `origin`. -/
def unsorted? (origin : Nat) (last : ByteArray) : Option ByteArray :=
  let next := sortedPlaces last
  next[origin]?.map fun start => follow last next last.size start .empty

/-- Lengthens runs. Behind four equal bytes comes how many more of them there are. -/
def lengthened? : List UInt8 → (latest : UInt8) → (streak : Nat) → ByteArray → Option ByteArray
  | [], _, streak, out => if streak == 4 then none else some out
  | b :: rest, latest, streak, out =>
    if streak == 4 then lengthened? rest latest 0 (Nat.repeat (·.push latest) b.toNat out)
    else
      let streak := if streak != 0 && b == latest then streak + 1 else 1
      lengthened? rest b streak (out.push b)

/-- Reads the bytes of a block, and its checksum. Blocks of an old, shuffled form are not read. -/
def readBlock (s : BitSource) (bound place : Nat) : Except Halt (ByteArray × UInt32 × Nat) := do
  let checksum := UInt32.ofNat (← s.bits? place 32)
  let origin ← s.bits? (place + 32) 25
  if bound + 10 < origin then .error .damaged
  else
    let (bytes, place) ← readBytes s (place + 57)
    let codes ← s.bits? place 3
    let groups ← s.bits? (place + 3) 15
    if bytes.isEmpty || codes < 2 || 6 < codes || groups == 0 then .error .damaged
    else
      let (turns, place) ← readTurns s groups (List.range codes) (place + 18)
      let (codes, place) ← readCodes s (bytes.length + 2) codes place
      let inTurn := turns.filterMap fun turn => codes[turn]?
      let (symbols, place) ← readGroups s (bytes.length + 1) inTurn place #[]
      let out? := do
        let bytes ← unsorted? origin (← lastBytes? bound bytes symbols)
        lengthened? bytes.toList 0 0 .empty
      match out? with
      | none => .error .damaged
      | some out =>
        if highChecksum out == checksum then pure (out, checksum, place) else .error .damaged

/-- A checksum that takes in the one of the next block. -/
def chain (total checksum : UInt32) : UInt32 := ((total <<< 1) ||| (total >>> 31)) ^^^ checksum

/-- Reads blocks up to the end mark. -/
def readBlocks (s : BitSource) (bound : Nat) : (fuel : Nat) → (place : Nat) → UInt32 → ByteArray →
    Except Halt ByteArray
  | 0, _, _, _ => .error .damaged
  | fuel + 1, place, total, out => do
    if (← s.bits? place 8) == 0x17 then
      let place ← readMark s endMark place
      if (← s.bits? place 32) == total.toNat then pure out else .error .damaged
    else
      let place ← readMark s blockMark place
      let (bytes, checksum, place) ← readBlock s bound place
      readBlocks s bound fuel place (chain total checksum) (out ++ bytes)

/-- The number of bytes that blocks may have, by the level at the start of the data. -/
def readHead (s : BitSource) : Except Halt Nat := do
  let place ← (readMark s headMark 0).mapError fun
    | .damaged => .foreign
    | halt => halt
  let digit ← s.bits? place 8
  if 0x31 ≤ digit && digit ≤ 0x39 then pure ((digit - 0x30) * 100000) else .error .foreign

/-- The bytes that sorted data stands for. A block takes at least a byte. -/
def contents? (data : ByteArray) : Except Halt ByteArray := do
  let s : BitSource := ⟨data, true⟩
  readBlocks s (← readHead s) (data.size + 1) 32 0 .empty

/-! ## Storing -/

/-- The bits of a number, high end first. -/
def bitsOf (width n : Nat) : List Bool := (List.range width).reverse.map n.testBit

/-- The bits of a mark. -/
def markBits (mark : List Nat) : List Bool := mark.flatMap (bitsOf 8)

/-- A byte as a block of its own: it comes once, then the block ends. All words have two bits. -/
def byteBlock (b : UInt8) : List Bool :=
  let checksum := highChecksum ⟨#[b]⟩
  let code := bitsOf 5 2 ++ bitsOf 3 0
  markBits blockMark ++ bitsOf 32 checksum.toNat ++ bitsOf 25 0
    ++ bitsOf 16 (Nat.pow 2 (15 - b.toNat / 16)) ++ bitsOf 16 (Nat.pow 2 (15 - b.toNat % 16))
    ++ bitsOf 3 2 ++ bitsOf 15 1 ++ bitsOf 1 0 ++ code ++ code ++ bitsOf 2 0 ++ bitsOf 2 2

/-- Bits as bytes; the last byte is filled up with zeros. -/
def bytesOf (bits : List Bool) : List UInt8 :=
  if bits.isEmpty then []
  else
    let byte := ((bits ++ List.replicate 7 false).take 8).foldl (fun n b => 2 * n + b.toNat) 0
    UInt8.ofNat byte :: bytesOf (bits.drop 8)
termination_by bits.length
decreasing_by
  have hpos : 0 < bits.length := List.length_pos_iff.mpr (by simpa using ‹¬bits.isEmpty›)
  rw [List.length_drop]
  omega

/-- Bytes as sorted data, in which each byte is a block. -/
def storedBytes (bytes : List UInt8) : List UInt8 :=
  let total := bytes.foldl (fun total b => chain total (highChecksum ⟨#[b]⟩)) 0
  bytesOf (markBits (headMark ++ [0x31]) ++ bytes.flatMap byteBlock ++ markBits endMark
    ++ bitsOf 32 total.toNat)

end Paperwork.Archive.Sorted
