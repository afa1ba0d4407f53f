import SyntaxFold.Decimal.Dyadic

/-!
# The shortest decimal of a double

A decimal reads back as a double when it lies in the interval of reals that round to that double.
`Decimal.shortest` finds the decimal with the fewest digits in that interval, and of those with
equally few the one nearest to the double. It tries the decimal grids from coarse to fine: if a
point of a grid lies in the interval, then so does one of the two grid points next to the double.
-/

namespace SyntaxFold

/-- The number `digits * 10 ^ exponent`. -/
structure Decimal where
  digits : Nat
  exponent : Int
  deriving DecidableEq, Repr

/-- Which of two decimals at the same distance is taken. -/
inductive Tie where
  | toEven
  | awayFromZero
  deriving DecidableEq, Repr

namespace Decimal

/-- How many digits the decimal writing of a number has. -/
def digitCount (number : Nat) : Nat := (Nat.toDigits 10 number).length

/-- The decimal exponent of a positive quotient: the largest power of ten that is not above it. -/
def leadingExponent (numerator denominator : Nat) : Int :=
  let guess : Int := (digitCount numerator : Int) - digitCount denominator
  let scaledNumerator := numerator * Nat.pow 10 (-guess).toNat
  let scaledDenominator := denominator * Nat.pow 10 guess.toNat
  if scaledDenominator ≤ scaledNumerator then guess else guess - 1

/-- A double between its two rounding boundaries, all three scaled by one common unit. -/
structure Interval where
  /-- Lower boundary, double and upper boundary, in quarters of the last place. -/
  lower : Nat
  value : Nat
  upper : Nat
  /-- Whether a number on a boundary still rounds to the double. -/
  closed : Bool

/-- The interval that rounds to `significand * 2 ^ exponent`, in units of `2 ^ (exponent - 2)`. The
gap below a power of two is half as wide as the gap above it, unless the power is the smallest. -/
def Interval.around (significand : Nat) (exponent : Int) : Interval :=
  let below := if significand = Dyadic.hiddenBit ∧ -1074 < exponent then 1 else 2
  ⟨4 * significand - below, 4 * significand, 4 * significand + 2, significand % 2 = 0⟩

/-- The point of the grid `10 ^ gridExponent` that is nearest to the double among those that read
back as it, where the unit of the interval is `2 ^ unitExponent`. -/
def gridPoint? (tie : Tie) (interval : Interval) (unitExponent gridExponent : Int) :
    Option Nat :=
  let scale := Nat.pow 10 (-gridExponent).toNat <<< unitExponent.toNat
  let step := Nat.pow 10 gridExponent.toNat <<< (-unitExponent).toNat
  let value := interval.value * scale
  let floor := value / step
  let inside (candidate : Nat) : Bool :=
    let point := candidate * step
    if interval.closed then
      interval.lower * scale ≤ point && point ≤ interval.upper * scale
    else
      interval.lower * scale < point && point < interval.upper * scale
  match inside floor, inside (floor + 1) with
  | false, false => none
  | true, false => some floor
  | false, true => some (floor + 1)
  | true, true =>
    let down := value - floor * step
    let up := (floor + 1) * step - value
    if down < up then some floor
    else if up < down then some (floor + 1)
    else match tie with
      | .toEven => some (if floor % 2 = 0 then floor else floor + 1)
      | .awayFromZero => some (floor + 1)

/-- The decimal with the fewest digits that reads back as the positive number
`significand * 2 ^ exponent`, and of those the nearest. Seventeen digits always suffice. -/
def shortest (tie : Tie) (significand : Nat) (exponent : Int) : Decimal :=
  let leading := leadingExponent (significand <<< exponent.toNat) (1 <<< (-exponent).toNat)
  let interval := Interval.around significand exponent
  let onGrid (finer : Nat) : Option Decimal :=
    let gridExponent := leading - finer
    (gridPoint? tie interval (exponent - 2) gridExponent).map (⟨·, gridExponent⟩)
  ((List.range 18).findSome? onGrid).getD ⟨0, 0⟩

end Decimal

end SyntaxFold
