import SyntaxFold.Decimal.Dyadic

/-!
# Number text

The grammar of number text: an integer is an optional sign and at least one decimal digit; a
decimal may add a point with digits on either side of it and an exponent; `inf`, `infinity` and
`nan` are read in any case. Digits are the ten ASCII ones. A decimal becomes the nearest double.
-/

namespace SyntaxFold.Numeral

/-- The value of a decimal digit. -/
def digit? (c : Char) : Option Nat :=
  if '0' ≤ c ∧ c ≤ '9' then some (c.toNat - '0'.toNat) else none

/-- The number that a run of digits denotes, most significant digit first. -/
def ofDigits (digits : List Nat) : Nat :=
  digits.foldl (fun number digit => 10 * number + digit) 0

/-- A number written as digits only, at least one of them. -/
def natural? (text : List Char) : Option Nat :=
  if text.isEmpty then none else (text.mapM digit?).map ofDigits

/-- Splits off a sign; `true` stands for a minus. -/
def splitSign : List Char → Bool × List Char
  | '-' :: rest => (true, rest)
  | '+' :: rest => (false, rest)
  | text => (false, text)

/-- A number written as an optional sign and digits. -/
def integer? (text : List Char) : Option Int :=
  let (negative, body) := splitSign text
  (natural? body).map fun magnitude => if negative then -magnitude else magnitude

/-- The 64-bit integer with a given value, if there is one. -/
def int64OfInt? (value : Int) : Option Int64 :=
  if -0x8000000000000000 ≤ value ∧ value < 0x8000000000000000 then some (Int64.ofInt value)
  else none

/-- A 64-bit integer written as an optional sign and digits. -/
def int64? (text : List Char) : Option Int64 :=
  (integer? text).bind int64OfInt?

/-- Splits text after its leading digits. -/
def spanDigits (text : List Char) : List Char × List Char :=
  (text.takeWhile (·.isDigit), text.dropWhile (·.isDigit))

/-- The exponent part of a decimal, which may be missing. -/
def exponent? : List Char → Option Int
  | [] => some 0
  | marker :: rest => if marker = 'e' ∨ marker = 'E' then integer? rest else none

/-- The double nearest to `digits * 10 ^ exponent`. Beyond four hundred places on either side
every double is zero or infinite, so no large power is ever computed. -/
def nearest (digits : Nat) (exponent : Int) : Float :=
  let leading : Int := exponent + (Nat.toDigits 10 digits).length
  if digits = 0 ∨ leading < -400 then 0
  else if 400 < leading then 1 / 0
  else if 0 ≤ exponent then Float.ofScientific digits false exponent.toNat
  else Float.ofScientific digits true (-exponent).toNat

/-- A decimal without sign: digits with at most one point, then an optional exponent. -/
def decimal? (text : List Char) : Option Float :=
  let (whole, rest) := spanDigits text
  let (fraction, rest) := match rest with
    | '.' :: rest => spanDigits rest
    | _ => ([], rest)
  match natural? (whole ++ fraction), exponent? rest with
  | some digits, some exponent => some (nearest digits (exponent - fraction.length))
  | _, _ => none

/-- A number without digits: an infinity or NaN, spelled in any case. -/
def special? (text : List Char) : Option Float :=
  let lower := String.ofList (text.map Char.toLower)
  if lower = "inf" ∨ lower = "infinity" then some (1 / 0)
  else if lower = "nan" then some (0 / 0)
  else none

/-- A double written as an optional sign and either a decimal or a number without digits. -/
def float? (text : List Char) : Option Float :=
  let (negative, body) := splitSign text
  (decimal? body <|> special? body).map fun magnitude => if negative then -magnitude else magnitude

end SyntaxFold.Numeral
