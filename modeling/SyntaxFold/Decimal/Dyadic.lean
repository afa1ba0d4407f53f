/-!
# Dyadic numbers

Every finite double is an integer times a power of two. This module reads that integer and that
power off the bits of a double, and goes back from them to the nearest double. All the arithmetic
in between is exact arithmetic on natural numbers.
-/

namespace SyntaxFold

/-- The number `± significand * 2 ^ exponent`. -/
structure Dyadic where
  negative : Bool
  significand : Nat
  exponent : Int
  deriving DecidableEq, Repr

namespace Dyadic

/-- The leading bit of the 53 that a normal double has; only the other 52 are stored. -/
def hiddenBit : Nat := 0x10000000000000

/-- The number that a finite double stands for, with the sign of zero kept; `none` for an infinity
or a NaN. Subnormal doubles share the exponent of the smallest normal ones. -/
def ofFloat? (x : Float) : Option Dyadic :=
  let bits : Nat := x.toBits.toNat
  let negative := decide (0x8000000000000000 ≤ bits)
  let biased : Nat := bits / hiddenBit % 2048
  let fraction : Nat := bits % hiddenBit
  if biased = 2047 then
    none
  else if biased = 0 then
    some ⟨negative, fraction, -1074⟩
  else
    some ⟨negative, hiddenBit + fraction, (biased : Int) - 1075⟩

/-- The integer that the number equals, when it is an integer. -/
def toInt? (number : Dyadic) : Option Int :=
  let signed (magnitude : Nat) : Int := if number.negative then -magnitude else magnitude
  if 0 ≤ number.exponent then
    some (signed (number.significand <<< number.exponent.toNat))
  else
    let unit := 1 <<< (-number.exponent).toNat
    if number.significand % unit = 0 then some (signed (number.significand / unit)) else none

/-- The double nearest to `significand * 2 ^ exponent`, a tie going to the even neighbour. A
negative power of two is written as a power of five over a power of ten, so that one rounding does
the whole job. -/
def nearest (significand : Nat) (exponent : Int) : Float :=
  if 0 ≤ exponent then
    Float.ofScientific (significand <<< exponent.toNat) false 0
  else
    let places := (-exponent).toNat
    Float.ofScientific (significand * Nat.pow 5 places) true places

end Dyadic

end SyntaxFold
