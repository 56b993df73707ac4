import Paperwork.Archive.Bits

/-!
# Deflated data

Data is a chain of blocks: stored bytes, or symbols of a prefix code that stand for bytes and for
repetitions of earlier output. The low end of a byte comes first. A wider form of the format reaches
further back and repeats more at once.

Reading stops where the data ends and where it breaks the format. What came out before data ends is
kept; data that breaks the format gives nothing.
-/

namespace Paperwork.Archive

/-! ## Codes -/

/-- The greatest number of bits of a word. -/
def PrefixCode.maxLength : Nat := 15

/-- The share of all words of the greatest length that start with a word of the code. -/
def PrefixCode.share (lengths : List Nat) : Nat :=
  (lengths.filter (· != 0)).foldl (fun total n => total + Nat.pow 2 (maxLength - n)) 0

/-- Every long enough sequence of bits starts with exactly one word. -/
def PrefixCode.isComplete (lengths : List Nat) : Bool := share lengths == Nat.pow 2 maxLength

/-- Blocks may use a code that is complete, or has a single word of one bit. -/
def PrefixCode.isUsable (lengths : List Nat) : Bool :=
  isComplete lengths || lengths.filter (· != 0) == [1]

/-- The words of a block: those of bytes and lengths, and those of distances. -/
structure BlockCode where
  literals : PrefixCode
  distances : PrefixCode

/-- The code of blocks that carry none. -/
def BlockCode.fixed : BlockCode where
  literals := .ofLengths (List.replicate 144 8 ++ List.replicate 112 9 ++ List.replicate 24 7
    ++ List.replicate 8 8)
  distances := .ofLengths (List.replicate 32 5)

/-! ## Repetitions -/

/-- The least number that each symbol stands for, and the number of bits added to it. -/
abbrev Steps := Array (Nat × Nat)

/-- The lengths and the distances that symbols stand for. -/
structure Reach where
  lengths : Steps
  distances : Steps

/-- The least length of each length symbol, and the number of bits added to it. -/
def lengthSteps : Steps :=
  #[(3, 0), (4, 0), (5, 0), (6, 0), (7, 0), (8, 0), (9, 0), (10, 0), (11, 1), (13, 1), (15, 1),
    (17, 1), (19, 2), (23, 2), (27, 2), (31, 2), (35, 3), (43, 3), (51, 3), (59, 3), (67, 4),
    (83, 4), (99, 4), (115, 4), (131, 5), (163, 5), (195, 5), (227, 5), (258, 0)]

/-- The least distance of each distance symbol, and the number of bits added to it. -/
def distanceSteps : Steps :=
  #[(1, 0), (2, 0), (3, 0), (4, 0), (5, 1), (7, 1), (9, 2), (13, 2), (17, 3), (25, 3), (33, 4),
    (49, 4), (65, 5), (97, 5), (129, 6), (193, 6), (257, 7), (385, 7), (513, 8), (769, 8),
    (1025, 9), (1537, 9), (2049, 10), (3073, 10), (4097, 11), (6145, 11), (8193, 12), (12289, 12),
    (16385, 13), (24577, 13)]

/-- The common form of the format. -/
def Reach.usual : Reach := ⟨lengthSteps, distanceSteps⟩

/-- The wide form. Its last length symbol has bits of its own, and there are two more distances. -/
def Reach.wide : Reach :=
  ⟨lengthSteps.pop.push (3, 16), distanceSteps ++ #[(49153, 14), (65537, 14)]⟩

/-- The number that a symbol and the bits after it stand for. -/
def readStep (steps : Steps) (symbol : Nat) (s : BitSource) (place : Nat) :
    Except Halt (Nat × Nat) :=
  match steps[symbol]? with
  | none => .error .damaged
  | some (least, extra) => do pure (least + (← s.bits? place extra), place + extra)

/-- Repeats output from a distance back, byte by byte. -/
def repeatBack (distance : Nat) : Nat → ByteArray → ByteArray
  | 0, out => out
  | n + 1, out => repeatBack distance n (out.push ((out[out.size - distance]?).getD 0))

/-! ## Blocks -/

/-- What a block says: a byte, a repetition, or that it ends. -/
inductive Command where
  | byte (b : UInt8)
  | again (length distance : Nat)
  | stop
deriving DecidableEq, Repr

/-- Reads a command and the place after it. -/
def readCommand (reach : Reach) (code : BlockCode) (s : BitSource) (place : Nat) :
    Except Halt (Command × Nat) := do
  let (symbol, place) ← code.literals.read? s place
  if symbol < 256 then pure (.byte (UInt8.ofNat symbol), place)
  else if symbol == 256 then pure (.stop, place)
  else
    let (length, place) ← readStep reach.lengths (symbol - 257) s place
    let (symbol, place) ← code.distances.read? s place
    let (distance, place) ← readStep reach.distances symbol s place
    pure (.again length distance, place)

/-- How far blocks were read: to a place, to the end of the data, or to a fault. -/
inductive Progress where
  | upTo (place : Nat) (out : ByteArray)
  | short (out : ByteArray)
  | damaged

/-- Where a halt leaves the output. -/
def Halt.progress (out : ByteArray) : Halt → Progress
  | short => .short out
  | damaged | foreign => .damaged

/-- Reads commands up to the end of a block. -/
def readCommands (reach : Reach) (code : BlockCode) (s : BitSource) :
    Nat → (place : Nat) → ByteArray → Progress
  | 0, _, _ => .damaged
  | fuel + 1, place, out => match readCommand reach code s place with
    | .error halt => halt.progress out
    | .ok (.byte b, place) => readCommands reach code s fuel place (out.push b)
    | .ok (.stop, place) => .upTo place out
    | .ok (.again length distance, place) =>
      if out.size < distance then .damaged
      else readCommands reach code s fuel place (repeatBack distance length out)

/-- Reads the bytes of a stored block, which start at a full byte. -/
def readStored (s : BitSource) (place : Nat) (out : ByteArray) : Progress :=
  let start := (place + 7) / 8
  match s.bits? (8 * start) 32 with
  | .error halt => halt.progress out
  | .ok lengths =>
    let length := lengths % 65536
    let stop := start + 4 + length
    if length + lengths / 65536 != 65535 then .damaged
    else
      let out := out ++ s.data.extract (start + 4) stop
      if s.data.size < stop then .short out else .upTo (8 * stop) out

/-- The order in which a block gives the lengths of the words of its length code. -/
def lengthOrder : List Nat := [16, 17, 18, 0, 8, 7, 9, 6, 10, 5, 11, 4, 12, 3, 13, 2, 14, 1, 15]

/-- Reads the lengths of a number of words; the latest length comes first. -/
def readLengths (code : PrefixCode) (s : BitSource) (total : Nat) :
    Nat → (place : Nat) → List Nat → Except Halt (List Nat × Nat)
  | 0, _, _ => .error .damaged
  | fuel + 1, place, lengths =>
    if total < lengths.length then .error .damaged
    else if lengths.length == total then .ok (lengths, place)
    else do
      let (symbol, place) ← code.read? s place
      let again (value? : Option Nat) (least extra : Nat) : Except Halt (List Nat × Nat) := do
        let n := least + (← s.bits? place extra)
        match value? with
        | some value =>
          readLengths code s total fuel (place + extra) (List.replicate n value ++ lengths)
        | none => .error .damaged
      if symbol < 16 then readLengths code s total fuel place (symbol :: lengths)
      else if symbol == 16 then again lengths.head? 3 2
      else if symbol == 17 then again (some 0) 3 3
      else again (some 0) 11 7

/-- Reads three-bit lengths. -/
def readTriples (s : BitSource) (place : Nat) : Nat → Except Halt (List Nat)
  | 0 => .ok []
  | n + 1 => do
    let length ← s.bits? place 3
    pure (length :: (← readTriples s (place + 3) n))

/-- The code of lengths. Without words, each bit stands for the length zero. -/
def lengthCode? (lengths : List Nat) : Except Halt PrefixCode :=
  if lengths.all (· == 0) then .ok ⟨[2], #[0, 0]⟩
  else if PrefixCode.isComplete lengths then .ok (.ofLengths lengths)
  else .error .damaged

/-- The code of a block. The end of the block needs a word; distances need none. -/
def blockCode? (literals distances : List Nat) : Except Halt BlockCode :=
  if literals[256]?.getD 0 == 0 then .error .damaged
  else if PrefixCode.isUsable literals
      && (PrefixCode.isUsable distances || distances.all (· == 0)) then
    .ok ⟨.ofLengths literals, .ofLengths distances⟩
  else .error .damaged

/-- Reads the code that a block carries. -/
def readBlockCode (reach : Reach) (s : BitSource) (place : Nat) :
    Except Halt (BlockCode × Nat) := do
  let literals := 257 + (← s.bits? place 5)
  let distances := 1 + (← s.bits? (place + 5) 5)
  let given := 4 + (← s.bits? (place + 10) 4)
  if 257 + reach.lengths.size < literals || reach.distances.size < distances then .error .damaged
  else
    let triples ← readTriples s (place + 14) given
    let lengthOf (symbol : Nat) : Nat := ((lengthOrder.zip triples).lookup symbol).getD 0
    let code ← lengthCode? ((List.range 19).map lengthOf)
    let total := literals + distances
    let (lengths, place) ← readLengths code s total (total + 1) (place + 14 + 3 * given) []
    let lengths := lengths.reverse
    pure (← blockCode? (lengths.take literals) (lengths.drop literals), place)

/-- Reads a block behind its first bit. -/
def readBlock (reach : Reach) (s : BitSource) (place : Nat) (out : ByteArray) : Progress :=
  let commands := 8 * s.data.size + 1
  match s.bits? place 2 with
  | .error halt => halt.progress out
  | .ok 0 => readStored s (place + 2) out
  | .ok 1 => readCommands reach .fixed s commands (place + 2) out
  | .ok 2 => match readBlockCode reach s (place + 2) with
    | .error halt => halt.progress out
    | .ok (code, place) => readCommands reach code s commands place out
  | .ok _ => .damaged

/-- Reads blocks up to the last one. -/
def readBlocks (reach : Reach) (s : BitSource) : Nat → (place : Nat) → ByteArray → Progress
  | 0, _, _ => .damaged
  | fuel + 1, place, out => match s.bit? place with
    | .error halt => halt.progress out
    | .ok last => match readBlock reach s (place + 1) out with
      | .upTo place out =>
        if last == 1 then .upTo place out else readBlocks reach s fuel place out
      | halted => halted

/-- The bytes that deflated data stands for, or starts to. A block takes at least three bits. -/
def inflate? (reach : Reach) (data : ByteArray) : Option ByteArray :=
  match readBlocks reach ⟨data, false⟩ (8 * data.size + 1) 0 .empty with
  | .upTo _ out => some out
  | .short out => some out
  | .damaged => none

/-! ## Storing -/

/-- The low and the high byte of a number of 16 bits. -/
def twoBytes (n : Nat) : List UInt8 := [UInt8.ofNat (n % 256), UInt8.ofNat (n / 256 % 256)]

/-- Bytes as a stored block. -/
def storedBlock (last : Bool) (bytes : List UInt8) : List UInt8 :=
  (if last then 1 else 0) :: twoBytes bytes.length ++ twoBytes (65535 - bytes.length) ++ bytes

/-- Bytes as stored blocks. -/
def storedBlocks (bytes : List UInt8) : List UInt8 :=
  if bytes.length ≤ 65535 then storedBlock true bytes
  else storedBlock false (bytes.take 65535) ++ storedBlocks (bytes.drop 65535)
termination_by bytes.length
decreasing_by simp; omega

end Paperwork.Archive
