import SyntaxFold.Sandbox.Directory.Basic

/-!
# Utilities

A utility is a command of the system that maps its arguments, its input and the files to what it
writes, its status, the input that it leaves and the files. This module holds what utilities have
in common: how they report, and how they show names in messages.
-/

namespace SyntaxFold.Sandbox.Utility

/-- What a utility is asked to do. -/
structure Request where
  /-- What stands in front of messages. -/
  announce : Bytes
  arguments : List Bytes
  input : Bytes
  directory : Directory

/-- What a utility did. What it wrote to which stream is in order, oldest first. -/
structure Effect where
  written : List (Nat × Bytes)
  status : Nat
  input : Bytes
  directory : Directory

namespace Request

/-- The arguments as texts. -/
def texts (request : Request) : List String := request.arguments.map Bytes.toStringLossy

/-- The bytes of a message. -/
def message (request : Request) (text : String) : Bytes :=
  request.announce ++ Bytes.ofString (text ++ "\n")

/-- Does nothing but end. -/
def ending (request : Request) (status : Nat) : Effect :=
  ⟨[], status, request.input, request.directory⟩

/-- Prints something. -/
def printing (request : Request) (output : Bytes) : Effect :=
  { request.ending 0 with written := [(1, output)] }

/-- Prints what became of the whole input. -/
def filtering (request : Request) (output : Bytes) : Effect :=
  { request.printing output with input := [] }

/-- Gives up with a message. -/
def failing (request : Request) (status : Nat) (text : String) : Effect :=
  { request.ending status with written := [(2, request.message text)] }

end Request

/-- The escape of a byte that cannot be printed. -/
def escapeOf (byte : UInt8) : String :=
  match byte.toNat with
  | 7 => "\\a"
  | 8 => "\\b"
  | 9 => "\\t"
  | 10 => "\\n"
  | 11 => "\\v"
  | 12 => "\\f"
  | 13 => "\\r"
  | code =>
    let digits := Nat.toDigits 8 code
    "\\" ++ String.ofList (List.replicate (3 - digits.length) '0' ++ digits)

/-- Whether a byte can be printed. -/
def isPrintable (byte : UInt8) : Bool := 32 ≤ byte && byte ≤ 126

/-- A text between single quotes. Quotes and backslashes in it have got backslashes, and what cannot
be printed is escaped. -/
def quotedText (text : Bytes) : String :=
  let shown (byte : UInt8) : String :=
    if byte = 39 ∨ byte = 92 then "\\" ++ (Char.ofNat byte.toNat).toString
    else if isPrintable byte then (Char.ofNat byte.toNat).toString
    else escapeOf byte
  "'" ++ String.join (text.map shown) ++ "'"

/-- Whether a byte needs quotes in the name of a file. -/
def needsQuotes (position : Nat) (byte : UInt8) : Bool :=
  !isPrintable byte || (Bytes.ofString " !\"$&'()*:;<=>?[\\^\x60|").contains byte ||
    (position == 0 && (byte == 35 || byte == 126))

/-- Whether a name with single quotes in it can stand between double quotes. -/
def fitsDoubleQuotes (name : Bytes) : Bool :=
  name.all fun byte =>
    isPrintable byte && !(Bytes.ofString "!\"#$&()*;<=>?[\\^\x60\x7b|\x7d~").contains byte

/-- The text of a name between single quotes. What cannot be printed stands between quotes of its
own, behind a dollar sign. The flag says whether such quotes are open. -/
def singleQuoted (escaping : Bool) : Bytes → String
  | [] => "'"
  | byte :: rest =>
    if byte = 39 then "'\\''" ++ singleQuoted false rest
    else if isPrintable byte then
      (if escaping then "''" else "") ++ (Char.ofNat byte.toNat).toString ++
        singleQuoted false rest
    else (if escaping then "" else "'$'") ++ escapeOf byte ++ singleQuoted true rest

/-- The text of a name between quotes, as a shell could read it. -/
def quotedName (name : String) : String :=
  let bytes := Bytes.ofString name
  if bytes.contains 39 ∧ fitsDoubleQuotes bytes then "\"" ++ name ++ "\""
  else "'" ++ singleQuoted false bytes

/-- The text of a name, in quotes if it needs them. -/
def shownName (name : String) : String :=
  let bytes := Bytes.ofString name
  let isBrace := name == "\x7b" || name == "\x7d"
  if bytes.isEmpty ∨ isBrace ∨
    (bytes.zipIdx.any fun (byte, position) => needsQuotes position byte) then quotedName name
  else name

/-- The lines of a text, each with whether it is ended. The fuel is the length of the text. -/
def linesOf (fuel : Nat) (text : Bytes) : List (Bytes × Bool) :=
  match fuel, text with
  | _, [] => []
  | 0, text => [(text, false)]
  | fuel + 1, text =>
    match text.span (· != 10) with
    | (line, _ :: rest) => (line, true) :: linesOf fuel rest
    | (line, []) => [(line, false)]

/-- The text of lines. -/
def ofLines (lines : List (Bytes × Bool)) : Bytes :=
  lines.flatMap fun (line, ended) => if ended then line ++ [10] else line

/-- The text of lines that are all ended. -/
def endedLines (lines : List Bytes) : Bytes := lines.flatMap fun line => line ++ [10]

/-- The bytes that operands name, or the input if there are none; a dash is the input too. -/
structure Sources where
  /-- What each operand gives. -/
  found : List (String × Except FileFault Bytes)
  input : Bytes

/-- Reads what operands name. -/
def Request.sources (request : Request) (operands : List Bytes) : Sources :=
  let operands := if operands.isEmpty then [[45]] else operands
  operands.foldl (fun sources (operand : Bytes) =>
    let name := operand.toStringLossy
    if name = "-" ∨ name = "/dev/stdin" then
      ⟨sources.found ++ [(name, .ok sources.input)], []⟩
    else
      ⟨sources.found ++ [(name, (request.directory.content name).map Content.bytes)],
        sources.input⟩) ⟨[], request.input⟩

/-- Maps the bytes that operands name to what is printed. What cannot be read is reported, and the
others are still printed. -/
def Request.each (request : Request) (operands : List Bytes) (describe : String → String)
    (output : Bytes → Bytes) : Effect :=
  let sources := request.sources operands
  let written := sources.found.map fun (name, found) =>
    match found with
    | .ok bytes => (1, output bytes)
    | .error fault => (2, request.message (describe name ++ ": " ++ fault.reason))
  let failed := sources.found.any fun (_, found) => found matches .error _
  ⟨written, if failed then 1 else 0, sources.input, request.directory⟩

/-- Maps all that operands name, one behind the other, to what is printed. -/
def Request.together (request : Request) (operands : List Bytes) (describe : String → String)
    (output : Bytes → Bytes) : Effect :=
  let sources := request.sources operands
  let errors := sources.found.filterMap fun (name, found) =>
    match found with
    | .ok _ => none
    | .error fault => some (2, request.message (describe name ++ ": " ++ fault.reason))
  let all := sources.found.flatMap fun (_, found) => (found.toOption).getD []
  ⟨errors ++ [(1, output all)], if errors.isEmpty then 0 else 1, sources.input,
    request.directory⟩

/-- Whether a byte is a blank. -/
def isBlankByte (byte : UInt8) : Bool := byte == 32 || byte == 9

/-- The integer that digits spell, perhaps with a minus sign. -/
def integer? (text : String) : Option Int :=
  let (negative, digits) := match text.toList with
    | '-' :: digits => (true, digits)
    | digits => (false, digits)
  if digits.isEmpty ∨ !digits.all Char.isDigit then none
  else
    let value : Nat := digits.foldl (fun value c => 10 * value + (c.toNat - 48)) 0
    some (if negative then -(value : Int) else value)

/-- The hint below a message about arguments. -/
def Request.hint (request : Request) : String :=
  let name := (request.announce.takeWhile (· != 58) : List UInt8)
  "\nTry '" ++ Bytes.toStringLossy name ++ " --help' for more information."

end SyntaxFold.Sandbox.Utility
