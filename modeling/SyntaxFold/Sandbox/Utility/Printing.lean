import SyntaxFold.Sandbox.Shell.Arithmetic
import SyntaxFold.Sandbox.Utility.Basic
import SyntaxFold.Sandbox.Utility.Notation

/-!
# Printing

The utilities that print their arguments: `echo` and `printf`.
-/

namespace SyntaxFold.Sandbox.Utility

/-- The value of an octal digit. -/
def octalDigit? (byte : UInt8) : Option Nat :=
  if 48 ≤ byte ∧ byte ≤ 55 then some (byte.toNat - 48) else none

/-- Reads up to the given number of octal digits. -/
def readOctal : (digits : Nat) → (value : Nat) → Bytes → Nat × Bytes
  | 0, value, text => (value, text)
  | _ + 1, value, [] => (value, [])
  | digits + 1, value, byte :: rest =>
    match octalDigit? byte with
    | some digit => readOctal digits (8 * value + digit) rest
    | none => (value, byte :: rest)

/-- The byte that a letter behind a backslash stands for. -/
def escapedByte? (letter : UInt8) : Option UInt8 :=
  match Char.ofNat letter.toNat with
  | 'a' => some 7
  | 'b' => some 8
  | 'e' => some 27
  | 'f' => some 12
  | 'n' => some 10
  | 'r' => some 13
  | 't' => some 9
  | 'v' => some 11
  | '\\' => some 92
  | _ => none

/-- The value of a hexadecimal digit. -/
def hexadecimalDigit? (byte : UInt8) : Option Nat :=
  Shell.Arithmetic.digit? 16 (Char.ofNat byte.toNat)

/-- Reads one or two hexadecimal digits. -/
def readHexadecimal? : Bytes → Option (Nat × Bytes)
  | first :: second :: rest =>
    match hexadecimalDigit? first, hexadecimalDigit? second with
    | some high, some low => some (16 * high + low, rest)
    | some digit, none => some (digit, second :: rest)
    | none, _ => none
  | [digit] => (hexadecimalDigit? digit).map fun value => (value, [])
  | [] => none

/-- The two forms of the commands that print their arguments: builtins of the shell, and programs of
their own. -/
inductive PrintForm where
  | builtin
  | program
  deriving DecidableEq, Repr

/-- Expands the escapes in a printed argument; the flag says whether output goes on behind it. The
digits of a number follow a zero, or nothing where that is allowed. The fuel is the length of the
text. -/
def expandEscapes (form : PrintForm) (barely : Bool) (fuel : Nat) (text : Bytes) : Bytes × Bool :=
  match fuel, text with
  | _, [] => ([], true)
  | 0, text => (text, true)
  | fuel + 1, 92 :: letter :: rest =>
    let code? : Option (Nat × Bytes) :=
      if letter = 48 then some (readOctal 3 0 rest)
      else if barely ∧ (octalDigit? letter).isSome then some (readOctal 3 0 (letter :: rest))
      else if letter = 120 ∧ form = .program then readHexadecimal? rest
      else none
    if letter = 99 then ([], false)
    else if let some (value, rest) := code? then
      let (others, goesOn) := expandEscapes form barely fuel rest
      (UInt8.ofNat value :: others, goesOn)
    else
      let (others, goesOn) := expandEscapes form barely fuel rest
      match escapedByte? letter with
      | some byte => (byte :: others, goesOn)
      | none => (92 :: letter :: others, goesOn)
  | fuel + 1, byte :: rest =>
    let (others, goesOn) := expandEscapes form barely fuel rest
    (byte :: others, goesOn)

/-- Prints the arguments with blanks between them, and expands their escapes. -/
def echo (request : Request) : Effect :=
  let (newline, arguments) := match request.arguments with
    | [45, 110] :: rest => (false, rest)
    | arguments => (true, arguments)
  let text := List.intercalate [32] arguments
  let (expanded, goesOn) := expandEscapes .builtin false text.length text
  request.printing (expanded ++ (if newline && goesOn then [10] else []))

/-- Whether an argument of the program that prints its arguments is an option. -/
def isEchoOption (argument : Bytes) : Bool :=
  match argument with
  | 45 :: letter :: letters =>
    (letter :: letters).all fun byte => byte == 110 || byte == 101 || byte == 69
  | _ => false

/-- Prints the arguments as they are, unless an option asks for their escapes. -/
def plainEcho (request : Request) : Effect :=
  let options := (request.arguments.takeWhile isEchoOption).flatten
  let arguments := request.arguments.dropWhile isEchoOption
  let text := List.intercalate [32] arguments
  let expands := (options.reverse.find? fun byte => byte == 101 || byte == 69) == some 101
  let (text, goesOn) :=
    if expands then expandEscapes .program false text.length text else (text, true)
  request.printing (text ++ (if !options.contains 110 && goesOn then [10] else []))

/-- A directive of a format: how one argument is printed. -/
structure Directive where
  flags : List Char
  width : Nat
  precision : Option Nat
  letter : Char

/-- Fills a text up to the width of a directive. -/
def Directive.pad (directive : Directive) (text : Bytes) : Bytes :=
  let fill := List.replicate (directive.width - text.length) 32
  if directive.flags.contains '-' then text ++ fill else fill ++ text

/-- Fills the digits of a number up to the width of a directive, behind what comes before them. -/
def Directive.padNumber (directive : Directive) (sign : String) (digits : String) : Bytes :=
  let least := match directive.precision with
    | some precision => precision
    | none =>
      if directive.flags.contains '0' ∧ ¬ directive.flags.contains '-' then
        directive.width - sign.length
      else 0
  let zeros := List.replicate (least - digits.length) '0'
  directive.pad (Bytes.ofString (sign ++ String.ofList zeros ++ digits))

/-- Whether a directive prints numbers that may be negative. -/
def Directive.isSigned (directive : Directive) : Bool :=
  directive.letter == 'd' || directive.letter == 'i'

/-- The text of an integer under a directive. A number below zero counts from the largest one down
where there are no signs. -/
def Directive.integer (directive : Directive) (value : Int) : Bytes :=
  let unsigned := (value % 18446744073709551616).toNat
  let isNothing := value == 0 && directive.precision == some 0
  let digits (base : Nat) :=
    if isNothing then "" else String.ofList (Nat.toDigits base unsigned)
  let marked (mark : String) := if directive.flags.contains '#' ∧ unsigned ≠ 0 then mark else ""
  match directive.letter with
  | 'u' => directive.padNumber "" (digits 10)
  | 'o' => directive.padNumber (marked "0") (digits 8)
  | 'x' => directive.padNumber (marked "0x") (digits 16)
  | 'X' =>
    let upper := String.ofList ((digits 16).toList.map Char.toUpper)
    directive.padNumber (marked "0X") upper
  | _ =>
    let sign :=
      if value < 0 then "-"
      else if directive.flags.contains '+' then "+"
      else if directive.flags.contains ' ' then " "
      else ""
    directive.padNumber sign (if isNothing then "" else value.natAbs.repr)

/-- Reads the digits of a decimal number, and a power of ten that may follow. The result is the
number, and the text that is left. -/
def readDecimal (text : List Char) : Option (Float × List Char) :=
  let whole := text.takeWhile Char.isDigit
  let rest := text.dropWhile Char.isDigit
  let places := match rest with
    | '.' :: rest => rest.takeWhile Char.isDigit
    | _ => []
  let rest := match rest with
    | '.' :: rest => rest.dropWhile Char.isDigit
    | rest => rest
  if whole.isEmpty ∧ places.isEmpty then none
  else
    let toNumber (digits : List Char) : Nat :=
      digits.foldl (fun value c => 10 * value + (c.toNat - 48)) 0
    let (power, rest) : Int × List Char := match rest with
      | e :: behind =>
        let (negative, digits) := match behind with
          | '-' :: digits => (true, digits)
          | '+' :: digits => (false, digits)
          | digits => (false, digits)
        let exponent := digits.takeWhile Char.isDigit
        if e.toLower = 'e' ∧ ¬ exponent.isEmpty then
          let value : Int := min (toNumber exponent) 5000
          (if negative then -value else value, digits.dropWhile Char.isDigit)
        else (0, rest)
      | [] => (0, [])
    let power := power - places.length
    let value := Float.ofScientific (toNumber (whole ++ places)) (power < 0) power.natAbs
    some (value, rest)

/-- What is wrong with an argument that should be a number. -/
inductive NumberFault where
  | noNumber (argument : Bytes)
  | moreThanNumber (argument : Bytes)
  | outOfRange (argument : Bytes)
  deriving DecidableEq, Repr

/-- The text of a fault. -/
def NumberFault.message (form : PrintForm) (fault : NumberFault) : String :=
  match form, fault with
  | .builtin, noNumber argument => argument.toStringLossy ++ ": expected numeric value"
  | .program, noNumber argument => quotedText argument ++ ": expected a numeric value"
  | .builtin, moreThanNumber argument => argument.toStringLossy ++ ": not completely converted"
  | .program, moreThanNumber argument => quotedText argument ++ ": value not completely converted"
  | .builtin, outOfRange argument => argument.toStringLossy ++ ": Numerical result out of range"
  | .program, outOfRange argument => quotedText argument ++ ": Numerical result out of range"

/-- The faults of an argument, from what is left of it. -/
def numberFaults (argument : Bytes) (left read : Nat) (inRange : Bool) : List NumberFault :=
  if read = 0 then [.noNumber argument]
  else if 0 < left then [.moreThanNumber argument]
  else if inRange then []
  else [.outOfRange argument]

/-- A text without the blanks at its start and the sign behind them, and whether that is a minus
sign. -/
def withoutSign (text : List Char) : Bool × List Char :=
  match text.dropWhile fun c => c == ' ' || (9 ≤ c.toNat && c.toNat ≤ 13) with
  | '-' :: rest => (true, rest)
  | '+' :: rest => (false, rest)
  | rest => (false, rest)

/-- The digits of a base at the start of a text, as a number, and the text behind them. -/
def readDigits (base : Nat) (text : List Char) : Nat × List Char :=
  let isDigit (c : Char) : Bool := (Shell.Arithmetic.digit? base c).isSome
  let value := (text.takeWhile isDigit).foldl (fun value c =>
    base * value + (Shell.Arithmetic.digit? base c).getD 0) 0
  (value, text.dropWhile isDigit)

/-- Reads a number without a sign: hexadecimal behind `0x`, octal behind a zero, else decimal. -/
def readInteger (text : List Char) : Nat × List Char :=
  match text with
  | '0' :: x :: c :: rest =>
    if (x = 'x' ∨ x = 'X') ∧ (Shell.Arithmetic.digit? 16 c).isSome then readDigits 16 (c :: rest)
    else readDigits 8 text
  | '0' :: _ => readDigits 8 text
  | _ => readDigits 10 text

/-- Words for what is no finite number, the longer ones first. -/
def wordNumber? (text : List Char) : Option (Float × List Char) :=
  let lower := text.map Char.toLower
  if "infinity".toList.isPrefixOf lower then some (1.0 / 0.0, text.drop 8)
  else if "inf".toList.isPrefixOf lower then some (1.0 / 0.0, text.drop 3)
  else if "nan".toList.isPrefixOf lower then some (0.0 / 0.0, text.drop 3)
  else none

/-- The number that an argument spells, whether it is negative, and what is wrong with it. -/
def decimalArgument (argument : Bytes) : Bool × Float × List NumberFault :=
  let text := (Bytes.toStringLossy argument).toList
  let (negative, unsigned) := withoutSign text
  match argument with
  | [] => (false, 0, [])
  | 39 :: byte :: _ | 34 :: byte :: _ => (false, Float.ofNat byte.toNat, [])
  | _ =>
    let (word, rest) := match wordNumber? unsigned with
      | some (value, rest) => (some value, rest)
      | none => (none, unsigned)
    let hexadecimal := match unsigned with
      | '0' :: x :: c :: _ => x.toLower == 'x' && (Shell.Arithmetic.digit? 16 c).isSome
      | _ => false
    let (value, rest) := match word, hexadecimal, readDecimal rest with
      | some value, _, _ => (value, rest)
      | none, true, _ =>
        let (value, rest) := readDigits 16 (unsigned.drop 2)
        (Float.ofNat value, rest)
      | none, false, some (value, rest) => (value, rest)
      | none, false, none => (0, unsigned)
    let inRange := word.isSome || value.isFinite
    let read := unsigned.length - rest.length
    (negative && read != 0, value, numberFaults argument rest.length read inRange)

/-- The text of a number under a directive. -/
def Directive.decimal (directive : Directive) (negative : Bool) (value : Float) : Bytes :=
  let sign :=
    if negative then "-"
    else if directive.flags.contains '+' then "+"
    else if directive.flags.contains ' ' then " "
    else ""
  let precision := directive.precision.getD 6
  let cased (text : String) : String :=
    if directive.letter.isUpper then text.map Char.toUpper else text
  match Dyadic.ofFloat? value with
  | none => directive.pad (Bytes.ofString (sign ++ cased (if value.isNaN then "nan" else "inf")))
  | some number =>
    let magnitude := Magnitude.ofDyadic number
    let text := match directive.letter with
      | 'f' | 'F' => magnitude.fixed precision
      | 'e' | 'E' => magnitude.scientific precision
      | _ => magnitude.general precision (directive.flags.contains '#')
    ({ directive with precision := none }).padNumber sign (cased text)

/-- What is wrong with a format. -/
inductive FormatFault where
  | unfinished (text : Bytes)
  | unknown (text : Bytes)
  | noHexadecimal
  deriving DecidableEq, Repr

/-- The text of a fault. -/
def FormatFault.message (form : PrintForm) (fault : FormatFault) : String :=
  match form, fault with
  | .builtin, unfinished _ => "missing format character"
  | .builtin, unknown text => text.toStringLossy ++ ": invalid directive"
  | .program, unfinished text | .program, unknown text =>
    text.toStringLossy ++ ": invalid conversion specification"
  | _, noHexadecimal => "missing hexadecimal number in escape"

/-- What came of printing with a format. -/
structure Printed where
  output : Bytes
  faults : List NumberFault
  /-- The arguments that are left. -/
  left : List Bytes
  goesOn : Bool
  /-- What is wrong with the format. -/
  formatFault : Option FormatFault

/-- Puts output and faults in front of what is printed later. -/
def Printed.after (later : Printed) (output : Bytes) (faults : List NumberFault) : Printed :=
  { later with output := output ++ later.output, faults := faults ++ later.faults }

/-- Ends printing with a fault of the format. -/
def Printed.failed (fault : FormatFault) : Printed := ⟨[], [], [], false, some fault⟩

/-- The number that an argument spells, and what is wrong with it. One that is too large gives way
to the largest one. -/
def integerArgument (form : PrintForm) (signed : Bool) (argument : Bytes) :
    Int × List NumberFault :=
  match form, argument with
  | _, [] => (0, [])
  | _, 39 :: byte :: _ | _, 34 :: byte :: _ => (byte.toNat, [])
  | .builtin, [39] | .builtin, [34] => (0, [])
  | _, argument =>
    let (negative, unsigned) := withoutSign (Bytes.toStringLossy argument).toList
    let (size, rest) := readInteger unsigned
    let limit :=
      if !signed then 18446744073709551615
      else if negative then 9223372036854775808
      else 9223372036854775807
    let value : Int := if negative ∧ (signed ∨ size ≤ limit) then
      -(min size limit : Nat) else (min size limit : Nat)
    (value, numberFaults argument rest.length (unsigned.length - rest.length) (size ≤ limit))

/-- Prints one argument under a directive; `none` when the directive is no valid one. -/
def Directive.print? (form : PrintForm) (directive : Directive) (argument : Bytes) :
    Option (Bytes × List NumberFault × Bool) :=
  let cut (text : Bytes) := match directive.precision with
    | some precision => text.take precision
    | none => text
  match directive.letter with
  | 's' => some (directive.pad (cut argument), [], true)
  | 'c' => some (directive.pad [argument.headD 0], [], true)
  | 'b' =>
    let (text, goesOn) := expandEscapes form true argument.length argument
    some (directive.pad (cut text), [], goesOn)
  | 'd' | 'i' | 'u' | 'o' | 'x' | 'X' =>
    let (value, faults) := integerArgument form directive.isSigned argument
    some (directive.integer value, faults, true)
  | 'f' | 'F' | 'e' | 'E' | 'g' | 'G' =>
    let (negative, value, faults) := decimalArgument argument
    some (directive.decimal negative value, faults, true)
  | _ => none

/-- Reads a number in a format, or takes it from the arguments where a star stands. -/
def formatNumber (format : Bytes) (arguments : List Bytes) : Nat × Bytes × List Bytes :=
  match format with
  | 42 :: rest =>
    ((integerArgument .builtin true (arguments.headD [])).1.toNat, rest, arguments.tail)
  | format =>
    let digits := format.takeWhile fun byte => 48 ≤ byte && byte ≤ 57
    (digits.foldl (fun value byte => 10 * value + (byte.toNat - 48)) 0,
      format.drop digits.length, arguments)

/-- Reads a directive, behind its percent sign. -/
def readDirective? (format : Bytes) (arguments : List Bytes) :
    Option (Directive × Bytes × List Bytes) :=
  let isFlag (byte : UInt8) : Bool :=
    byte == 35 || byte == 45 || byte == 43 || byte == 32 || byte == 48
  let flags := (format.takeWhile isFlag).map fun byte => Char.ofNat byte.toNat
  let (width, format, arguments) := formatNumber (format.dropWhile isFlag) arguments
  let (precision, format, arguments) := match format with
    | 46 :: format =>
      let (precision, format, arguments) := formatNumber format arguments
      (some precision, format, arguments)
    | format => (none, format, arguments)
  match format with
  | letter :: format =>
    some (⟨flags, width, precision, Char.ofNat letter.toNat⟩, format, arguments)
  | [] => none

/-- An escape in a format, behind its backslash. Nothing is printed behind the one that ends
output. -/
inductive FormatEscape where
  | bytes (value rest : Bytes)
  | ending
  | failed (fault : FormatFault)

/-- Reads an escape in a format. -/
def FormatEscape.read (form : PrintForm) (letter : UInt8) (rest : Bytes) : FormatEscape :=
  if (octalDigit? letter).isSome then
    let (value, rest) := readOctal 3 0 (letter :: rest)
    .bytes [UInt8.ofNat value] rest
  else match escapedByte? letter, form, Char.ofNat letter.toNat with
    | some byte, _, _ => .bytes [byte] rest
    | none, .program, '"' => .bytes [letter] rest
    | none, .program, 'c' => .ending
    | none, .program, 'x' =>
      match readHexadecimal? rest with
      | some (value, rest) => .bytes [UInt8.ofNat value] rest
      | none => .failed .noHexadecimal
    | none, _, _ => .bytes [92, letter] rest

/-- One pass over a format, up to a directive that is not valid. The fuel is the length of the
format. -/
def formatOnce (form : PrintForm) (fuel : Nat) (format : Bytes) (arguments : List Bytes) :
    Printed :=
  match fuel, format with
  | 0, _ | _, [] => ⟨[], [], arguments, true, none⟩
  | fuel + 1, 37 :: 37 :: rest => (formatOnce form fuel rest arguments).after [37] []
  | fuel + 1, 37 :: rest =>
    match readDirective? rest arguments with
    | none => .failed (.unfinished (37 :: rest))
    | some (directive, behind, arguments) =>
      match directive.print? form (arguments.headD []) with
      | none => .failed (.unknown (37 :: rest.take (rest.length - behind.length)))
      | some (output, faults, true) =>
        (formatOnce form fuel behind arguments.tail).after output faults
      | some (output, faults, false) => ⟨output, faults, [], false, none⟩
  | fuel + 1, 92 :: letter :: rest =>
    match FormatEscape.read form letter rest with
    | .bytes value rest => (formatOnce form fuel rest arguments).after value []
    | .ending => ⟨[], [], [], false, none⟩
    | .failed fault => .failed fault
  | fuel + 1, byte :: rest => (formatOnce form fuel rest arguments).after [byte] []

/-- Passes over a format as long as it consumes arguments. The fuel is the number of arguments, and
one more. -/
def formatAll (form : PrintForm) (fuel : Nat) (format : Bytes) (arguments : List Bytes) :
    Printed :=
  match fuel with
  | 0 => ⟨[], [], [], true, none⟩
  | fuel + 1 =>
    let printed := formatOnce form format.length format arguments
    if printed.left.isEmpty ∨ printed.left.length = arguments.length ∨ ¬ printed.goesOn then printed
    else (formatAll form fuel format printed.left).after printed.output printed.faults

/-- Prints arguments by a format. -/
def printByFormat (form : PrintForm) (request : Request) (format : Bytes)
    (arguments : List Bytes) : Effect :=
  let printed := formatAll form (arguments.length + 1) format arguments
  let warnings := match form, printed.left with
    | .program, extra :: _ =>
      ["warning: ignoring excess arguments, starting with " ++ quotedText extra]
    | _, _ => []
  let complaints := printed.faults.map (NumberFault.message form) ++
    printed.formatFault.toList.map (FormatFault.message form)
  let status :=
    if printed.formatFault.isSome ∧ form = .builtin then 2
    else if complaints.isEmpty then 0
    else 1
  { request.ending status with
    written := (complaints ++ warnings).map (fun message => (2, request.message message)) ++
      [(1, printed.output)] }

/-- Prints the arguments by a format, which is the first of them. -/
def printf (request : Request) : Effect :=
  let usage := "usage: printf format [arg ...]"
  match request.arguments with
  | [] | [[45, 45]] => request.failing 2 usage
  | [45, 45] :: format :: arguments => printByFormat .builtin request format arguments
  | (45 :: letter :: _) :: _ =>
    request.failing 2 ("Illegal option -" ++ (Char.ofNat letter.toNat).toString)
  | format :: arguments => printByFormat .builtin request format arguments

/-- Prints the arguments by a format, as a program. -/
def plainPrintf (request : Request) : Effect :=
  match request.arguments with
  | [] | [[45, 45]] => request.failing 1 ("missing operand" ++ request.hint)
  | [45, 45] :: format :: arguments | format :: arguments =>
    printByFormat .program request format arguments

end SyntaxFold.Sandbox.Utility
