import Paperwork.Tree.Basic

/-!
# Reading JSON text

The strict grammar over bytes. A text that is not well formed is refused; a string with an
unpaired surrogate or bytes that are no UTF-8, or a number beyond all doubles, is a faulty leaf.
-/

namespace Paperwork.Json

/-- Why bytes are not JSON. -/
inductive SyntaxError where
  | unexpectedEnd
  | unexpected (rest : Nat)
  | trailing (rest : Nat)
deriving DecidableEq, Repr

/-- The wording of a fault; places are counted in bytes from the end. -/
def SyntaxError.message : SyntaxError → String
  | unexpectedEnd => "unexpected end of text"
  | unexpected rest => "unexpected byte, " ++ Nat.repr rest ++ " bytes from the end"
  | trailing rest => "trailing characters, " ++ Nat.repr rest ++ " bytes from the end"

/-- The failure at the head of the remaining bytes. -/
def fault {α : Type} : List UInt8 → Except SyntaxError α
  | [] => .error .unexpectedEnd
  | rest => .error (.unexpected rest.length)

def isBlankByte (b : UInt8) : Bool := b == 32 || b == 10 || b == 9 || b == 13

def skipBlanks (bytes : List UInt8) : List UInt8 := bytes.dropWhile isBlankByte

def isDigitByte (b : UInt8) : Bool := 48 ≤ b && b ≤ 57

/-- The value of a hexadecimal digit. -/
def hexValue? (b : UInt8) : Option Nat :=
  if 48 ≤ b && b ≤ 57 then some (b.toNat - 48)
  else if 97 ≤ b && b ≤ 102 then some (b.toNat - 87)
  else if 65 ≤ b && b ≤ 70 then some (b.toNat - 55)
  else none

/-- The value of four hexadecimal digits. -/
def hexFour? (a b c d : UInt8) : Option Nat := do
  let a ← hexValue? a
  let b ← hexValue? b
  let c ← hexValue? c
  let d ← hexValue? d
  some (((a * 16 + b) * 16 + c) * 16 + d)

/-! ## Strings -/

/-- The text read so far: its bytes, and whether it is still the text of something. -/
structure Partial where
  bytes : ByteArray
  faulty : Bool

def Partial.push (p : Partial) (b : UInt8) : Partial := { p with bytes := p.bytes.push b }

/-- Appends the encoding of a code point. -/
def Partial.pushCode (p : Partial) (code : Nat) : Partial :=
  { p with bytes := p.bytes ++ (String.singleton (Char.ofNat code)).toUTF8 }

def Partial.spoil (p : Partial) : Partial := { p with faulty := true }

/-- The leaf of a finished string. -/
def Partial.leaf (p : Partial) : Leaf :=
  if p.faulty then .faulty
  else match String.fromUTF8? p.bytes with
    | some s => .text s
    | none => .faulty

/-- The byte that a one-letter escape stands for. -/
def escapeByte? (b : UInt8) : Option UInt8 :=
  if b == 34 || b == 92 || b == 47 then some b
  else if b == 98 then some 8
  else if b == 102 then some 12
  else if b == 110 then some 10
  else if b == 114 then some 13
  else if b == 116 then some 9
  else none

/-- The code point of a surrogate pair. -/
def pairCode (high low : Nat) : Nat := 0x10000 + (high - 0xD800) * 0x400 + (low - 0xDC00)

/-- Reads up to the closing quote. -/
def readString : List UInt8 → Partial → Except SyntaxError (Leaf × List UInt8)
  | 34 :: rest, p => .ok (p.leaf, rest)
  | 92 :: 117 :: a :: b :: c :: d :: rest, p =>
    match hexFour? a b c d with
    | none => fault (a :: rest)
    | some code =>
      if code < 0xD800 || 0xDFFF < code then readString rest (p.pushCode code)
      else if 0xDC00 ≤ code then readString rest p.spoil
      else
        match rest with
        | 92 :: 117 :: e :: f :: g :: h :: more =>
          match hexFour? e f g h with
          | some low =>
            if 0xDC00 ≤ low && low ≤ 0xDFFF then readString more (p.pushCode (pairCode code low))
            else readString (92 :: 117 :: e :: f :: g :: h :: more) p.spoil
          | none => fault (e :: more)
        | more => readString more p.spoil
  | 92 :: b :: rest, p =>
    match escapeByte? b with
    | some c => readString rest (p.push c)
    | none => fault (b :: rest)
  | b :: rest, p => if b < 32 then fault (b :: rest) else readString rest (p.push b)
  | [], _ => fault []
termination_by bytes => bytes.length

/-! ## Numbers -/

/-- Appends a decimal digit to a significand of 64 bits, unless it does not fit. -/
def extend? (significand : Nat) (b : UInt8) : Option Nat :=
  let next := significand * 10 + (b.toNat - 48)
  if next < UInt64.size then some next else none

/-- The leading digits that fit 64 bits, and how many digits come after them. -/
def leading : List UInt8 → Nat → Nat × List UInt8
  | [], s => (s, [])
  | b :: rest, s => match extend? s b with
    | some s => leading rest s
    | none => (s, b :: rest)

/-- The number that the parts of a literal spell, if it is within the doubles. -/
def numberOf? (minus : Bool) (whole fraction : List UInt8) (exponent : Option Int) :
    Option Number :=
  let (s, dropped) := leading whole 0
  let signed (d : Option Double) : Option Number :=
    d.map fun d => .double (if minus then d.neg else d)
  if fraction.isEmpty && exponent.isNone then
    if dropped.isEmpty then
      match Number.ofInteger? minus s with
      | some n => some n
      | none => signed (Double.ofQuotient? s 1)
    else signed (Double.scaled? s dropped.length)
  else
    let (t, unread) := leading fraction s
    let places : Int := (dropped.length : Int) - ((fraction.length - unread.length : Nat) : Int)
    signed (Double.scaled? t (places + exponent.getD 0))

/-- The natural that digits spell. -/
def digitsValue (digits : List UInt8) : Nat :=
  digits.foldl (fun n b => n * 10 + (b.toNat - 48)) 0

/-- Reads digits, of which there is at least one. -/
def readDigits (bytes : List UInt8) : Except SyntaxError (List UInt8 × List UInt8) :=
  match bytes.takeWhile isDigitByte with
  | [] => fault bytes
  | digits => .ok (digits, bytes.dropWhile isDigitByte)

/-- Reads the exponent of a number, if there is one. -/
def readExponent : List UInt8 → Except SyntaxError (Option Int × List UInt8)
  | e :: rest =>
    if e == 101 || e == 69 then do
      let (minus, rest) := match rest with
        | 43 :: more => (false, more)
        | 45 :: more => (true, more)
        | more => (false, more)
      let (digits, rest) ← readDigits rest
      let n : Int := digitsValue digits
      pure (some (if minus then -n else n), rest)
    else .ok (none, e :: rest)
  | [] => .ok (none, [])

/-- Reads the places after the point, if there is one. -/
def readFraction : List UInt8 → Except SyntaxError (List UInt8 × List UInt8)
  | 46 :: rest => readDigits rest
  | rest => .ok ([], rest)

/-- Reads a number. -/
def readNumber (bytes : List UInt8) : Except SyntaxError (Leaf × List UInt8) := do
  let (minus, rest) := match bytes with
    | 45 :: more => (true, more)
    | more => (false, more)
  let (whole, rest) ← readDigits rest
  if whole.head? == some 48 && 1 < whole.length then fault rest
  else
    let (fraction, rest) ← readFraction rest
    let (exponent, rest) ← readExponent rest
    match numberOf? minus whole fraction exponent with
    | some n => pure (.number n, rest)
    | none => pure (.faulty, rest)

/-! ## Values -/

/-- Drops the bytes of a word. -/
def dropWord (word : String) (bytes : List UInt8) : Except SyntaxError (List UInt8) :=
  let w := word.toUTF8.toList
  if w.isPrefixOf bytes then .ok (bytes.drop w.length) else fault bytes

mutual

/-- Reads a value after blanks. The fuel bounds the nesting and the number of items. -/
def readValue : Nat → List UInt8 → Except SyntaxError (Tree × List UInt8)
  | 0, bytes => fault bytes
  | fuel + 1, bytes =>
    match skipBlanks bytes with
    | [] => fault []
    | b :: rest =>
      if b == 34 then do
        let (v, rest) ← readString rest ⟨.empty, false⟩
        pure (.leaf v none, rest)
      else if b == 91 then
        match skipBlanks rest with
        | 93 :: rest => .ok (.sequence [], rest)
        | rest => do
          let (items, rest) ← readItems fuel rest
          pure (.sequence items, rest)
      else if b == 123 then
        match skipBlanks rest with
        | 125 :: rest => .ok (.mapping [], rest)
        | rest => do
          let (entries, rest) ← readEntries fuel rest
          pure (.mapping entries, rest)
      else if b == 116 then do
        pure (.leaf (.bool true) none, ← dropWord "true" (b :: rest))
      else if b == 102 then do
        pure (.leaf (.bool false) none, ← dropWord "false" (b :: rest))
      else if b == 110 then do
        pure (.leaf .null none, ← dropWord "null" (b :: rest))
      else if b == 45 || isDigitByte b then do
        let (v, rest) ← readNumber (b :: rest)
        pure (.leaf v none, rest)
      else fault (b :: rest)

/-- Reads items up to the closing bracket. -/
def readItems : Nat → List UInt8 → Except SyntaxError (List Tree × List UInt8)
  | 0, bytes => fault bytes
  | fuel + 1, bytes => do
    let (v, rest) ← readValue fuel bytes
    match skipBlanks rest with
    | 44 :: rest => do
      let (vs, rest) ← readItems fuel rest
      pure (v :: vs, rest)
    | 93 :: rest => pure ([v], rest)
    | rest => fault rest

/-- Reads entries up to the closing brace. -/
def readEntries : Nat → List UInt8 → Except SyntaxError (List (Tree × Tree) × List UInt8)
  | 0, bytes => fault bytes
  | fuel + 1, bytes =>
    match skipBlanks bytes with
    | 34 :: rest => do
      let (k, rest) ← readString rest ⟨.empty, false⟩
      match skipBlanks rest with
      | 58 :: rest => do
        let (v, rest) ← readValue fuel rest
        match skipBlanks rest with
        | 44 :: rest => do
          let (es, rest) ← readEntries fuel rest
          pure ((.leaf k none, v) :: es, rest)
        | 125 :: rest => pure ([(.leaf k none, v)], rest)
        | rest => fault rest
      | rest => fault rest
    | rest => fault rest

end

/-- The tree of a JSON text. Every value and item takes a byte, so the length bounds the fuel. -/
def read (bytes : ByteArray) : Except SyntaxError Tree :=
  let all := bytes.toList
  match readValue (all.length + 1) all with
  | .error e => .error e
  | .ok (t, rest) => match skipBlanks rest with
    | [] => .ok t
    | rest => .error (.trailing rest.length)

/-- A record may be given by position; all scalars are typed. -/
def reading : Reading := ⟨true, true⟩

/-- Levels of nesting that are read. -/
def levels : Nat := 127

end Paperwork.Json
