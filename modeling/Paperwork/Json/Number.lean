import Paperwork.Decimal.Shortest

/-!
# Numbers of JSON

A number is an integer of 64 bits or a double. Numbers are only read and printed, never computed
with, so a double keeps its sign and bits and equality is that of the values read.
-/

namespace Paperwork

/-- A number: a natural of 64 bits, an integer below zero of 64 bits, or a double. -/
inductive Number where
  | natural (n : UInt64)
  | negative (n : Int64)
  | double (d : Double)
deriving DecidableEq, Repr, Inhabited

namespace Number

/-- Doubles are positional from five places after the point up to sixteen before it. -/
def style : DecimalStyle := ⟨-5, 16⟩

/-- The text of a double: the shortest one that reads back, always with a point or an exponent. -/
def doubleText (d : Double) : String :=
  let magnitude := if d.isZero then "0.0" else style.render d.shortest
  if d.negative then "-" ++ magnitude else magnitude

/-- The text of a number. -/
def text : Number → String
  | natural n => Nat.repr n.toNat
  | negative n => if n.toInt < 0 then "-" ++ Nat.repr n.toInt.natAbs else Nat.repr n.toInt.natAbs
  | double d => doubleText d

/-- The integer of 64 bits that a sign and digits spell, if it fits. -/
def ofInteger? (minus : Bool) (digits : Nat) : Option Number :=
  if minus then
    if digits = 0 then none
    else if digits ≤ UInt64.size / 2 then some (negative (Int64.ofInt (-(digits : Int)))) else none
  else if digits < UInt64.size then some (natural (UInt64.ofNat digits)) else none

/-- The position that a number names: a natural, not a double that is equal to one. -/
def toPosition? : Number → Option UInt64
  | natural n => some n
  | _ => none

end Number

end Paperwork
