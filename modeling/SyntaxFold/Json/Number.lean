import SyntaxFold.Json.Basic

/-!
# Numbers in JSON text

A number without point and exponent is an integer when it lies between `-2 ^ 63` and `2 ^ 64 - 1`
and is not a negative zero. Every other number becomes a double: the digits are gathered into 64
bits, digits that no longer fit are dropped, and the result is scaled by one power of ten at a
time. That is not always the nearest double, but it is always the same one. A number too large for
a double is an error.
-/

namespace SyntaxFold.Json.Number

/-- The least natural number that does not fit 64 bits. -/
def wordLimit : Nat := 0x10000000000000000

/-- The least magnitude of an exponent that does not fit 31 bits. -/
def exponentLimit : Nat := 0x80000000

/-- The digits of a decimal as gathered so far: a number below `2 ^ 64` and the power of ten that
goes with it. -/
structure Gathered where
  significand : Nat
  exponent : Int
  /-- Set once a digit did not fit; all later digits of the same run are dropped too. -/
  full : Bool

/-- Adds a digit. A digit dropped before the point still counts for the power of ten. -/
def Gathered.push (fractional : Bool) (gathered : Gathered) (digit : Nat) : Gathered :=
  let next := 10 * gathered.significand + digit
  if gathered.full ∨ wordLimit ≤ next then
    { gathered with
      full := true
      exponent := if fractional then gathered.exponent else gathered.exponent + 1 }
  else
    { gathered with
      significand := next
      exponent := if fractional then gathered.exponent - 1 else gathered.exponent }

/-- The power of ten with the given exponent. -/
def powerOfTen (exponent : Nat) : Float := Float.ofScientific 1 false exponent

/-- Divides by a power of ten, in steps of at most `10 ^ 308`. -/
def scaleDown (value : Float) (places : Nat) : Float :=
  if value == 0 then value
  else if few : places ≤ 308 then value / powerOfTen places
  else scaleDown (value / powerOfTen 308) (places - 308)
termination_by places
decreasing_by omega

/-- A gathered decimal as a double; `none` when it is too large. -/
def Gathered.toFloat? (significand : Nat) (exponent : Int) : Option Float :=
  let value := Float.ofNat significand
  if exponent < 0 then
    some (scaleDown value (-exponent).toNat)
  else if exponent ≤ 308 then
    let scaled := value * powerOfTen exponent.toNat
    if scaled == 1 / 0 then none else some scaled
  else if significand = 0 then some value
  else none

/-- The parts of a number's text. -/
structure Parts where
  negative : Bool
  whole : List Nat
  fraction : Option (List Nat)
  exponent : Option Int

/-- Splits the text of a number: no empty run of digits, and no zero before other whole digits. -/
def Parts.ofText? (text : List Char) : Option Parts := do
  let (negative, body) := match text with
    | '-' :: rest => (true, rest)
    | _ => (false, text)
  let (whole, rest) := Numeral.spanDigits body
  if whole.isEmpty ∨ (whole.head? = some '0' ∧ 1 < whole.length) then
    none
  let (fraction, rest) ← match rest with
    | '.' :: rest =>
      let (digits, rest) := Numeral.spanDigits rest
      if digits.isEmpty then none else some (some digits, rest)
    | _ => some (none, rest)
  let exponent ← match rest with
    | [] => some none
    | _ => (Numeral.exponent? rest).map some
  let fraction ← fraction.mapM (·.mapM Numeral.digit?)
  return ⟨negative, ← whole.mapM Numeral.digit?, fraction, exponent⟩

/-- The double that the parts of a number denote. An exponent that does not fit 31 bits is an error
before nonzero digits and gives zero otherwise. -/
def Parts.toFloat? (parts : Parts) : Option Float := do
  let gathered := parts.whole.foldl (Gathered.push false) ⟨0, 0, false⟩
  let gathered :=
    (parts.fraction.getD []).foldl (Gathered.push true) { gathered with full := false }
  let written := parts.exponent.getD 0
  let magnitude ←
    if exponentLimit ≤ written.natAbs then
      if gathered.significand ≠ 0 ∧ 0 < written then none else some 0
    else Gathered.toFloat? gathered.significand (gathered.exponent + written)
  return if parts.negative then -magnitude else magnitude

/-- The number that a text denotes. -/
def ofText? (text : List Char) : Option Json := do
  let parts ← Parts.ofText? text
  let whole := Numeral.ofDigits parts.whole
  if parts.fraction.isSome ∨ parts.exponent.isSome then
    parts.toFloat?.map .float
  else if parts.negative ∧ 0 < whole ∧ whole ≤ wordLimit / 2 then
    some (.integer (-whole))
  else if ¬ parts.negative ∧ whole < wordLimit then
    some (.integer whole)
  else
    parts.toFloat?.map .float

end SyntaxFold.Json.Number
