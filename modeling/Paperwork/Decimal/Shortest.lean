import Paperwork.Decimal.Binary64

/-!
# Shortest decimals that read back

Every finite double has a least number of significant decimal digits that still read back as it.
Among the decimals of that length the one nearest to the double is chosen, on a tie the even one.
-/

namespace Paperwork

/-- Significant digits and the power of ten of the first one: `d.ddd * 10 ^ exponent`. -/
structure Scientific where
  digits : Nat
  exponent : Int
deriving DecidableEq, Repr

namespace Double

/-- The decimal exponent of a positive quotient: the floor of its decimal logarithm. -/
def decimalExponent (num den : Nat) : Int :=
  if den ≤ num then ((Nat.repr (num / den)).length : Int) - 1
  else
    let below := (Nat.repr (den / num)).length
    if den ≤ num * Nat.pow 10 (below - 1) then -((below : Int) - 1) else -(below : Int)

/--
Bounds of the decimals that read back as a positive double, over a common denominator: lower
bound, the double itself, upper bound, denominator. Below a power of two the gap is half as wide.
-/
def readingRange (d : Double) : Nat × Nat × Nat × Nat :=
  let s := d.significand
  let unit := Nat.pow 2 d.scale
  let low := if s = binade ∧ 0 < d.scale then (4 * s - 1) * unit else (4 * s - 2) * unit
  (low, 4 * s * unit, (4 * s + 2) * unit, 4 * Nat.pow 2 1074)

/-- The best decimal with a given number of digits, if one reads back. -/
def decimalOfLength? (d : Double) (length : Nat) : Option Scientific :=
  let (low, mid, high, den) := d.readingRange
  let e := decimalExponent mid den
  let step := e - ((length : Int) - 1)
  -- A candidate `c` stands for `c * 10 ^ step`; both sides are scaled to naturals.
  let up := Nat.pow 10 step.toNat
  let down := Nat.pow 10 (-step).toNat
  let below := mid * down / (den * up)
  let inRange (c : Nat) : Bool :=
    let v := c * up * den
    if d.significand % 2 = 0 then low * down ≤ v && v ≤ high * down
    else low * down < v && v < high * down
  let gap (c : Nat) : Nat := (Int.ofNat (c * up * den) - Int.ofNat (mid * down)).natAbs
  let pick : Option Nat :=
    match inRange below, inRange (below + 1) with
    | true, true =>
      if gap below < gap (below + 1) then some below
      else if gap (below + 1) < gap below then some (below + 1)
      else if below % 2 = 0 then some below else some (below + 1)
    | true, false => some below
    | false, true => some (below + 1)
    | false, false => none
  pick.map fun c => if c = Nat.pow 10 length then ⟨Nat.pow 10 (length - 1), e + 1⟩ else ⟨c, e⟩

/-- The shortest decimal of a positive double; seventeen digits always suffice. -/
def shortest (d : Double) : Scientific :=
  ((List.range 17).findSome? fun n => d.decimalOfLength? (n + 1)).getD ⟨0, 0⟩

end Double

/-- Which exponents are written in positional notation. -/
structure DecimalStyle where
  leastPositional : Int
  pastPositional : Int

/-- Drops the zeros at the end of a list of digits. -/
def dropEndZeros (digits : List Char) : List Char :=
  (digits.reverse.dropWhile (· == '0')).reverse

/-- Writes a decimal; positional notation always shows a digit after the point. -/
def DecimalStyle.render (style : DecimalStyle) (d : Scientific) : String :=
  let ds := dropEndZeros (Nat.repr d.digits).toList
  let n : Int := ds.length
  if style.leastPositional ≤ d.exponent ∧ d.exponent < style.pastPositional then
    if d.exponent < 0 then
      "0." ++ String.ofList (List.replicate (-d.exponent - 1).toNat '0' ++ ds)
    else if n ≤ d.exponent + 1 then
      String.ofList (ds ++ List.replicate (d.exponent + 1 - n).toNat '0') ++ ".0"
    else
      let whole := (d.exponent + 1).toNat
      String.ofList (ds.take whole) ++ "." ++ String.ofList (ds.drop whole)
  else
    let mantissa := match ds with
      | [] => "0"
      | [c] => String.singleton c
      | c :: rest => String.singleton c ++ "." ++ String.ofList rest
    let sign := if d.exponent < 0 then "-" else "+"
    mantissa ++ "e" ++ sign ++ Nat.repr d.exponent.natAbs

end Paperwork
