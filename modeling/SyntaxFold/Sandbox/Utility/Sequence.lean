import SyntaxFold.Sandbox.Utility.Arguments
import SyntaxFold.Sandbox.Utility.Printing

/-!
# Sequences

The utilities whose arguments are decimal numbers: one that prints the numbers between two, and one
that waits. The numbers of a sequence are exact, and all have as many digits behind the point as
the first one or the step.
-/

namespace SyntaxFold.Sandbox.Utility

/-- A decimal number as it was given. -/
structure GivenDecimal where
  /-- The digits behind the point. -/
  places : Nat
  /-- The number, in units of the last of these digits. -/
  units : Int
  /-- How many characters the number takes. -/
  width : Nat
  deriving DecidableEq, Repr

namespace GivenDecimal

/-- The number one. -/
def one : GivenDecimal := ⟨0, 1, 1⟩

/-- Reads a decimal number. -/
def ofBytes? (text : Bytes) : Option GivenDecimal :=
  let text := text.dropWhile isBlankByte
  let text := if text.head? = some 43 then text.drop 1 else text
  let (negative, digits) := match text with
    | 45 :: rest => (true, rest)
    | rest => (false, rest)
  let isDigit (byte : UInt8) : Bool := 48 ≤ byte && byte ≤ 57
  let whole := digits.takeWhile isDigit
  let (places, rest) := match digits.dropWhile isDigit with
    | 46 :: rest => (rest.takeWhile isDigit, rest.dropWhile isDigit)
    | rest => ([], rest)
  let power? : Option Int := match rest with
    | [] => some 0
    | byte :: rest =>
      if byte = 101 ∨ byte = 69 then integer? (Bytes.toStringLossy rest) else none
  match power? with
  | none => none
  | some power =>
    if whole.isEmpty ∧ places.isEmpty then none
    else
      let value : Nat := (whole ++ places).foldl (fun value byte =>
        10 * value + (byte.toNat - 48)) 0
      let dot := if places.isEmpty ∧ digits.getLast? = some 46 then 1 else 0
      let first := if whole.isEmpty then 1 else 0
      let count := ((places.length : Int) - power).toNat
      let value := value * Nat.pow 10 (power - places.length).toNat
      some ⟨count, if negative then -(value : Int) else value, text.length - dot + first⟩

/-- The number in units of a digit further behind the point. -/
def unitsAt (number : GivenDecimal) (places : Nat) : Int :=
  number.units * (Nat.pow 10 (places - number.places) : Nat)

/-- How wide the number is with so many digits behind the point. -/
def widthAt (number : GivenDecimal) (places : Nat) : Nat :=
  let dot (places : Nat) : Nat := if places = 0 then 0 else 1
  number.width - number.places - dot number.places + places + dot places

end GivenDecimal

/-- The numbers from one to another by steps. -/
def numbersBetween (first step last : Int) : List Int :=
  if step = 0 then []
  else
    let count := if 0 < step then (last - first) / step + 1 else (first - last) / (-step) + 1
    (List.range count.toNat).map fun (index : Nat) => first + step * (index : Int)

/-- A number with so many digits behind the point, filled up with zeros to a width. -/
def decimalText (places width : Nat) (units : Int) : String :=
  let digits := Magnitude.withPoint units.natAbs places
  let sign := if units < 0 then "-" else ""
  let zeros := String.ofList (List.replicate (width - sign.length - digits.length) '0')
  sign ++ zeros ++ digits

/-- How the numbers of a sequence are printed, if not plainly: what is in front of a number, its
directive, and what is behind it. -/
structure NumberFormat where
  before : Bytes
  directive : Directive
  behind : Bytes

/-- Text of a format up to its directive. Percent signs that stand for themselves are halved. -/
def untilDirective : Bytes → Bytes × Option Bytes
  | [] => ([], none)
  | 37 :: 37 :: rest =>
    let (text, directive) := untilDirective rest
    (37 :: text, directive)
  | 37 :: rest => ([], some rest)
  | byte :: rest =>
    let (text, directive) := untilDirective rest
    (byte :: text, directive)

/-- Reads a format. -/
def NumberFormat.ofBytes (format : Bytes) : Except String NumberFormat :=
  let shown := "format " ++ quotedText format
  match untilDirective format with
  | (_, none) => .error (shown ++ " has no % directive")
  | (before, some rest) =>
    match readDirective? rest [] with
    | none => .error (shown ++ " ends in %")
    | some (directive, behind, _) =>
      if !"efgaEFGA".toList.contains directive.letter then
        .error (shown ++ " has unknown %" ++ directive.letter.toString ++ " directive")
      else match untilDirective behind with
        | (behind, none) => .ok ⟨before, directive, behind⟩
        | (_, some _) => .error (shown ++ " has too many % directives")

/-- A number under a format. -/
def NumberFormat.print (format : NumberFormat) (places : Nat) (units : Int) : Bytes :=
  let value := Float.ofScientific units.natAbs true places
  format.before ++ format.directive.decimal (units < 0) value ++ format.behind

/-- The options of the utility that prints sequences. -/
def seqOptions : List OptionRule :=
  [.valued 'f' "format", .valued 's' "separator", .plain 'w' "equal-width"]

/-- Whether an argument is a negative number and no option. -/
def isNegativeNumber (argument : Bytes) : Bool :=
  match argument with
  | 45 :: byte :: _ => byte == 46 || (48 ≤ byte && byte ≤ 57)
  | _ => false

/-- What arguments of a sequence say. Options end before a negative number. -/
def sequenceArguments (arguments : List Bytes) : Except String Given := do
  let options := arguments.takeWhile (!isNegativeNumber ·)
  let numbers := arguments.dropWhile (!isNegativeNumber ·)
  let given ← Given.read seqOptions false none options
  return { given with operands := given.operands ++ numbers }

/-- Prints the numbers of a sequence. -/
def printSequence (request : Request) (given : Given) (first step last : GivenDecimal) : Effect :=
  let places := max first.places step.places
  let finest := max places last.places
  let scale : Int := (Nat.pow 10 (finest - places) : Nat)
  let numbers := (numbersBetween (first.unitsAt finest) (step.unitsAt finest)
    (last.unitsAt finest)).map (· / scale)
  let width :=
    if given.has "equal-width" then max (first.widthAt places) (last.widthAt places) else 0
  let plain (units : Int) : Bytes := Bytes.ofString (decimalText places width units)
  let separator := (given.value? "separator").getD [10]
  let print (text : Int → Bytes) : Effect :=
    if numbers.isEmpty then request.ending 0
    else request.printing (List.intercalate separator (numbers.map text) ++ [10])
  match given.value? "format" with
  | none => print plain
  | some format =>
    match NumberFormat.ofBytes format with
    | .error message => request.failing 1 message
    | .ok format =>
      if given.has "equal-width" then
        request.failing 1 ("format string may not be specified when printing equal width strings" ++
          request.hint)
      else print (format.print places)

/-- Prints the numbers from one to another by steps. -/
def seq (request : Request) : Effect :=
  let refuse (message : String) : Effect := request.failing 1 (message ++ request.hint)
  match sequenceArguments request.arguments with
  | .error message => refuse message
  | .ok given =>
    let wrong := given.operands.find? fun operand => (GivenDecimal.ofBytes? operand).isNone
    match given.operands, given.operands.mapM GivenDecimal.ofBytes? with
    | [], _ => refuse "missing operand"
    | _ :: _ :: _ :: extra :: _, _ => request.tooMany extra
    | _, none =>
      refuse ("invalid floating point argument: " ++
        quotedText (wrong.getD []))
    | _, some [last] => printSequence request given .one .one last
    | _, some [first, last] => printSequence request given first .one last
    | operands, some [first, step, last] =>
      if step.units = 0 then
        refuse ("invalid Zero increment value: " ++
          quotedText (operands.getD 1 []))
      else printSequence request given first step last
    | _, some _ => request.ending 0

/-- Whether a text is a decimal number, perhaps with a unit of time. -/
def isDuration (text : Bytes) : Bool :=
  let number := if text.getLast?.any (Bytes.ofString "smhd").contains then text.dropLast else text
  let isDigit (byte : UInt8) : Bool := 48 ≤ byte && byte ≤ 57
  number.any isDigit && number.all (fun byte => isDigit byte || byte == 46) &&
    number.count 46 ≤ 1

/-- Waits, which nothing shows. -/
def sleep (request : Request) : Effect :=
  request.taking [] fun given =>
    match given.operands, given.operands.find? (!isDuration ·) with
    | [], _ => request.failing 1 ("missing operand" ++ request.hint)
    | _, none => request.ending 0
    | _, some argument =>
      let quoted := quotedText argument
      request.failing 1 ("invalid time interval " ++ quoted ++ request.hint)

end SyntaxFold.Sandbox.Utility
