/-!
# Binary64 numbers as bit patterns

A double is a sign and a magnitude below infinity, both read off a 64-bit word. All arithmetic is
exact on naturals and rounds once, to nearest and to the even neighbour on a tie.
-/

namespace Paperwork

/-- The quotient rounded to the nearest natural, a half to the even one. -/
def roundHalfEven (num den : Nat) : Nat :=
  let q := num / den
  let r := num % den
  if 2 * r < den then q
  else if den < 2 * r then q + 1
  else if q % 2 = 0 then q else q + 1

/-- A finite double: its sign and the 63 low bits of its word. -/
structure Double where
  negative : Bool
  magnitude : Nat
deriving DecidableEq, Repr, Inhabited

namespace Double

/-- The significands of one power of two: 52 bits of a word. -/
def binade : Nat := Nat.pow 2 52

/-- The first magnitude that is not finite. -/
def infinity : Nat := 2047 * binade

/-- A positive magnitude is `significand * 2 ^ (scale - 1074)`. -/
def significand (d : Double) : Nat :=
  if d.magnitude < binade then d.magnitude else binade + d.magnitude % binade

/-- The power of two of a magnitude, counted from the least one. -/
def scale (d : Double) : Nat := d.magnitude / binade - 1

/-- The magnitude as a quotient of naturals. -/
def quotient (d : Double) : Nat × Nat := (d.significand * Nat.pow 2 d.scale, Nat.pow 2 1074)

def zero : Double := ⟨false, 0⟩

def neg (d : Double) : Double := ⟨!d.negative, d.magnitude⟩

def isZero (d : Double) : Bool := d.magnitude == 0

/--
The magnitude nearest to a quotient. With the quotient scaled so that it has 53 bits, or to the
least power of two if that is larger, the rounded significand and its scale add up to the word: a
carry out of the significand moves into the exponent.
-/
def magnitudeOfQuotient (num den : Nat) : Nat :=
  let excess : Int := (Nat.log2 num : Int) - Nat.log2 den - 52
  let isLess := num * Nat.pow 2 (-excess).toNat < den * Nat.pow 2 excess.toNat * binade
  let least : Int := if isLess then excess - 1 else excess
  let e : Int := max least (-1074)
  let m := roundHalfEven (num * Nat.pow 2 (-e).toNat) (den * Nat.pow 2 e.toNat)
  (e + 1074).toNat * binade + m

/-- The double nearest to a quotient, unless it is beyond the largest. -/
def ofQuotient? (num den : Nat) : Option Double :=
  if num = 0 then some zero
  else
    let m := magnitudeOfQuotient num den
    if m < infinity then some ⟨false, m⟩ else none

/-- The double nearest to `digits * 10 ^ exponent`. -/
def ofDecimal? (digits : Nat) (exponent : Int) : Option Double :=
  if digits = 0 then some zero
  else if exponent > 400 then none
  else if exponent < -(400 + (Nat.log2 digits : Int)) then some zero
  else ofQuotient? (digits * Nat.pow 10 exponent.toNat) (Nat.pow 10 (-exponent).toNat)

/-- The rounded product of two magnitudes. -/
def times? (a b : Double) : Option Double :=
  let (n, d) := a.quotient
  let (m, e) := b.quotient
  ofQuotient? (n * m) (d * e)

/-- The rounded quotient of two magnitudes. -/
def over? (a b : Double) : Option Double :=
  let (n, d) := a.quotient
  let (m, e) := b.quotient
  ofQuotient? (n * e) (d * m)

/-- The power of ten that is nearest to itself among doubles. -/
def tenPower? (n : Nat) : Option Double := ofDecimal? 1 n

/--
A significand scaled by a power of ten in rounded steps: the significand rounds first, one table
power of at most 308 multiplies or divides it, and further down each 308 places are one more
division.
-/
def scaled? (significand : Nat) (exponent : Int) : Option Double := do
  let start ← ofQuotient? significand 1
  go 4 start exponent
where
  go : Nat → Double → Int → Option Double
    | 0, f, _ => some f
    | steps + 1, f, e =>
      if e.natAbs ≤ 308 then
        if 0 ≤ e then do times? f (← tenPower? e.toNat) else do over? f (← tenPower? (-e).toNat)
      else if f.isZero then some f
      else if 0 ≤ e then none
      else do go steps (← over? f (← tenPower? 308)) (e + 308)

end Double

end Paperwork
