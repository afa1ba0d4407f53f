import SyntaxFold.Decimal.Shortest

/-!
# Layouts of decimal text

A layout says everything that is left open once the shortest digits of a double are known: which
magnitudes are written positionally, how a whole number ends, how an exponent is signed, and how
the numbers without digits are spelled. `Layout.write` follows a layout.
-/

namespace SyntaxFold

/-- The decisions by which the digits of a double become text. -/
structure Layout where
  /-- Which of two equally near decimals is written. -/
  tie : Tie
  /-- The least and the greatest decimal exponent that are written positionally. -/
  leastPositional : Int
  greatestPositional : Int
  /-- What follows the last digit of a whole number written positionally. -/
  wholeEnding : String
  /-- What stands before a positive exponent. -/
  exponentPlus : String
  zero : String
  negativeZero : String
  nan : String
  infinity : String
  negativeInfinity : String

namespace Layout

/-- A run of zeros. -/
def zeros (count : Nat) : String := String.ofList (List.replicate count '0')

/-- Digits with a point after the first `count` of them. -/
def pointed (digits : List Char) (count : Nat) : String :=
  String.ofList (digits.take count) ++ "." ++ String.ofList (digits.drop count)

/-- The text of a positive decimal. -/
def writeDecimal (layout : Layout) (number : Decimal) : String :=
  let digits := Nat.toDigits 10 number.digits
  let leading : Int := number.exponent + digits.length - 1
  if layout.leastPositional ≤ leading ∧ leading ≤ layout.greatestPositional then
    if 0 ≤ number.exponent then
      String.ofList digits ++ zeros number.exponent.toNat ++ layout.wholeEnding
    else if 0 ≤ leading then
      pointed digits (leading.toNat + 1)
    else
      "0." ++ zeros ((-leading).toNat - 1) ++ String.ofList digits
  else
    let mantissa :=
      if digits.length = 1 then String.ofList digits else pointed digits 1
    let exponent :=
      if 0 ≤ leading then layout.exponentPlus ++ leading.repr else leading.repr
    mantissa ++ "e" ++ exponent

/-- Digits without the zeros at their end, each of which goes into the exponent. -/
def trimZeros (number : Decimal) : Decimal :=
  let digits := (Nat.toDigits 10 number.digits).reverse
  let ending := digits.takeWhile (· == '0')
  ⟨number.digits / Nat.pow 10 ending.length, number.exponent + ending.length⟩

/-- The text of a double. -/
def write (layout : Layout) (x : Float) : String :=
  match Dyadic.ofFloat? x with
  | none =>
    if x != x then layout.nan
    else if x < 0 then layout.negativeInfinity
    else layout.infinity
  | some ⟨negative, 0, _⟩ => if negative then layout.negativeZero else layout.zero
  | some ⟨negative, significand, exponent⟩ =>
    let number := trimZeros (Decimal.shortest layout.tie significand exponent)
    (if negative then "-" else "") ++ layout.writeDecimal number

end Layout

end SyntaxFold
