import Paperwork.Tree.Basic
import Paperwork.Yaml.Scalar
import Paperwork.Yaml.Tag

/-!
# The values of plain scalars

A plain scalar is null, a truth value, a number or else a text. Integers may be hexadecimal, octal
or binary; digits behind a leading zero are a text. An integer beyond 64 bits has no value.
-/

namespace Paperwork.Yaml

/-- The words for null. -/
def isNullWord (s : String) : Bool := ["null", "Null", "NULL", "~"].contains s

/-- The truth value that a word stands for. -/
def boolWord? (s : String) : Option Bool :=
  if ["true", "True", "TRUE"].contains s then some true
  else if ["false", "False", "FALSE"].contains s then some false
  else none

/-! ## Integers -/

/-- The value of digits in a base; there has to be one. -/
def naturalOf? (base : Nat) : List Char → Option Nat
  | [] => none
  | x :: rest => (x :: rest).foldlM (fun n x => do
      let digit ← hexValue? x
      if digit < base then some (n * base + digit) else none) 0

/-- The base of a literal that starts with its mark, and the digits behind the mark. -/
def basedDigits? : List Char → Option (Nat × List Char)
  | '0' :: 'x' :: rest => some (16, rest)
  | '0' :: 'o' :: rest => some (8, rest)
  | '0' :: 'b' :: rest => some (2, rest)
  | _ => none

/-- The text behind one sign. -/
def dropSign : List Char → List Char
  | '-' :: rest | '+' :: rest => rest
  | s => s

/-- More than one digit, the first one a zero. -/
def isZeroPadded (s : List Char) : Bool :=
  match dropSign s with
  | '0' :: x :: rest => (x :: rest).all Char.isDigit
  | _ => false

/-- The magnitude of an unsigned literal. -/
def magnitude? (s : List Char) : Option Nat :=
  match (basedDigits? s).bind fun (base, digits) => naturalOf? base digits with
  | some n => some n
  | none => naturalOf? 10 s

/-- The sign and the magnitude of an integer. -/
def integer? (s : List Char) : Option (Bool × Nat) :=
  if isZeroPadded s then none
  else match s with
    | '-' :: rest => (magnitude? rest).map (true, ·)
    | '+' :: rest => (magnitude? rest).map (false, ·)
    | _ => (magnitude? s).map (false, ·)

/-- An integer as a leaf. Up to 128 bits it is one that has no value, beyond that it is none. -/
def integerLeaf? (s : List Char) : Option Leaf :=
  match integer? s with
  | none => none
  | some (minus, n) =>
    if n = 0 then some (if minus then .minusZero else .number (.natural 0))
    else match Number.ofInteger? minus n with
      | some number => some (.number number)
      | none =>
        let least := Nat.pow 2 127
        if n < least || (!minus && n < 2 * least) || (minus && n = least) then some .faulty
        else none

/-! ## Doubles -/

/-- The exponent of a decimal, zero if there is none. -/
def exponent? : List Char → Option Int
  | [] => some 0
  | x :: rest =>
    if x != 'e' && x != 'E' then none
    else match rest with
      | '-' :: digits => (naturalOf? 10 digits).map fun n => -(n : Int)
      | '+' :: digits => (naturalOf? 10 digits).map Int.ofNat
      | digits => (naturalOf? 10 digits).map Int.ofNat

/-- The double nearest to a decimal without a sign, if it is finite. -/
def decimal? (s : List Char) : Option Double := do
  let whole := s.takeWhile Char.isDigit
  let rest := s.dropWhile Char.isDigit
  let (fraction, rest) := match rest with
    | '.' :: more => (more.takeWhile Char.isDigit, more.dropWhile Char.isDigit)
    | _ => ([], rest)
  let digits ← naturalOf? 10 (whole ++ fraction)
  let exponent ← exponent? rest
  Double.ofDecimal? digits (exponent - fraction.length)

/-- The words for an infinity. -/
def isInfinityWord (s : String) : Bool := [".inf", ".Inf", ".INF"].contains s

/-- A double as a leaf. -/
def doubleLeaf? (s : List Char) : Option Leaf :=
  if isInfinityWord (String.ofList (dropSign s)) then some .unbounded
  else if [".nan", ".NaN", ".NAN"].contains (String.ofList s) then some .unbounded
  else match s with
    | '-' :: rest => (decimal? rest).map fun d => .number (.double d.neg)
    | '+' :: rest => (decimal? rest).map fun d => .number (.double d)
    | _ => (decimal? s).map fun d => .number (.double d)

/-! ## Leaves -/

/-- The leaf of a plain scalar. -/
def plainLeaf (s : String) : Leaf :=
  if s == "" || isNullWord s then .null
  else match boolWord? s with
    | some b => .bool b
    | none => match integerLeaf? s.toList with
      | some leaf => leaf
      | none =>
        if isZeroPadded s.toList then .text s
        else (doubleLeaf? s.toList).getD (.text s)

/-- The leaf of a scalar under a tag of a kind. A tag of the text's own leaves no value. -/
def taggedLeaf (kind : TagKind) (s : String) (plain : Bool) : Leaf :=
  match kind with
  | .bool => match boolWord? s with
    | some b => .bool b
    | none => .faulty
  | .integer => (integerLeaf? s.toList).getD .faulty
  | .double => (doubleLeaf? s.toList).getD .faulty
  | .null => if isNullWord s then .null else .faulty
  | .named => .faulty
  | .unnamed => if plain then plainLeaf s else .text s
  | .foreign => .text s

/-- The leaf of a scalar and its spelling. -/
def scalarLeaf (tag : Option Tag) (s : String) (plain : Bool) : Leaf × Spelling :=
  match tag.map Tag.kind with
  | some kind => (taggedLeaf kind s plain, ⟨s, plain, plain && kind == .null && isNullWord s⟩)
  | none => (if plain then plainLeaf s else .text s, ⟨s, plain, plain && (s == "" || isNullWord s)⟩)

end Paperwork.Yaml
