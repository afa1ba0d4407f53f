import SyntaxFold.Decimal.Dyadic

/-!
# Notations of decimal numbers

Decimal digits of the exact value of a double, with a fixed number of them behind the point, or of
them at all behind a power of ten. Rounding goes to the nearest, and in the middle to the even
neighbour.
-/

namespace SyntaxFold.Sandbox.Utility

/-- The value of a finite double that is not negative, as a fraction. -/
structure Magnitude where
  numerator : Nat
  denominator : Nat
  deriving DecidableEq, Repr

namespace Magnitude

/-- The magnitude of a number. -/
def ofDyadic (number : Dyadic) : Magnitude :=
  if 0 ≤ number.exponent then ⟨number.significand <<< number.exponent.toNat, 1⟩
  else ⟨number.significand, 1 <<< (-number.exponent).toNat⟩

/-- The magnitude times a power of ten. -/
def scaled (magnitude : Magnitude) (power : Int) : Magnitude :=
  if 0 ≤ power then
    ⟨magnitude.numerator * Nat.pow 10 power.toNat, magnitude.denominator⟩
  else ⟨magnitude.numerator, magnitude.denominator * Nat.pow 10 (-power).toNat⟩

/-- The nearest integer. -/
def rounded (magnitude : Magnitude) : Nat :=
  let quotient := magnitude.numerator / magnitude.denominator
  let remainder := magnitude.numerator % magnitude.denominator
  if 2 * remainder > magnitude.denominator ∨
    (2 * remainder = magnitude.denominator ∧ quotient % 2 = 1) then quotient + 1
  else quotient

/-- Decimal digits, so many of them behind the point. -/
def withPoint (digits places : Nat) : String :=
  let text := Nat.toDigits 10 digits
  let text := List.replicate (places + 1 - text.length) '0' ++ text
  let whole := text.take (text.length - places)
  String.ofList whole ++
    (if places = 0 then "" else "." ++ String.ofList (text.drop (text.length - places)))

/-- The magnitude with so many digits behind the point. -/
def fixed (magnitude : Magnitude) (places : Nat) : String :=
  withPoint (magnitude.scaled places).rounded places

/-- The power of ten of the first digit that is not zero. -/
def leadingPower (magnitude : Magnitude) : Int :=
  if magnitude.numerator = 0 then 0
  else
    let estimate : Int :=
      ((Nat.toDigits 10 magnitude.numerator).length : Int) -
        (Nat.toDigits 10 magnitude.denominator).length
    let below := magnitude.scaled (-estimate)
    if below.numerator < below.denominator then estimate - 1 else estimate

/-- The first digit, so many digits behind it, and the power of ten of the first one, after
rounding. -/
def significant (magnitude : Magnitude) (places : Nat) : Nat × Int :=
  let power := magnitude.leadingPower
  let digits := (magnitude.scaled ((places : Int) - power)).rounded
  if (Nat.toDigits 10 digits).length = places + 2 then (digits / 10, power + 1)
  else (digits, power)

/-- A power of ten, with its sign and two digits at least. -/
def powerText (power : Int) : String :=
  let digits := power.natAbs.repr
  (if power < 0 then "e-" else "e+") ++ (if digits.length < 2 then "0" else "") ++ digits

/-- The magnitude as a power of ten with one digit before the point and so many behind it. -/
def scientific (magnitude : Magnitude) (places : Nat) : String :=
  let (digits, power) := magnitude.significant places
  withPoint digits places ++ powerText power

/-- Digits without zeros at the end of those behind the point. -/
def withoutLastZeros (text : String) : String :=
  if text.toList.contains '.' then
    let kept := text.toList.reverse.dropWhile (· == '0')
    String.ofList (kept.dropWhile (· == '.')).reverse
  else text

/-- The magnitude with so many significant digits, in the notation that is shorter. -/
def general (magnitude : Magnitude) (digits : Nat) (keepsZeros : Bool) : String :=
  let digits := max digits 1
  let (found, power) := magnitude.significant (digits - 1)
  let trim (text : String) : String := if keepsZeros then text else withoutLastZeros text
  if -4 ≤ power ∧ power < digits then trim (magnitude.fixed ((digits : Int) - 1 - power).toNat)
  else trim (withPoint found (digits - 1)) ++ powerText power

end Magnitude

end SyntaxFold.Sandbox.Utility
