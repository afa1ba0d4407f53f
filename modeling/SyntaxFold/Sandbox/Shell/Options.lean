import SyntaxFold.Sandbox.Shell.State
import SyntaxFold.Sandbox.Utility.Basic

/-!
# Options of the shell

How the shell reads options, its own as well as those of its builtins. Behind a dash options are
set, behind a plus sign they are unset; what is behind the first other argument, or behind two
dashes, is not read.
-/

namespace SyntaxFold.Sandbox.Shell

/-- What the options at the start of arguments say. -/
structure OptionReading where
  options : List Char
  /-- Whether a text is to be run as a script. -/
  runsText : Bool
  /-- Whether the options were ended by a dash or two, and by how many. -/
  dashes : Nat
  rest : List Bytes
  /-- Whether the options are to be listed, and then whether for a reader or as commands. -/
  listing : Option Bool

/-- The reading that starts with options that are set before. -/
def OptionReading.start (options : List Char) : OptionReading := ⟨options, false, 0, [], none⟩

/-- The complaint about control of jobs, which needs a terminal. -/
def noTerminal : String := "can't access tty; job control turned off"

/-- Sets or unsets an option. -/
def setOption (options : List Char) (isSet : Bool) (option : Char) : List Char :=
  if isSet then if options.contains option then options else options ++ [option]
  else options.filter (· != option)

/-- Reads the letters of an argument, and counts the names of options that are still to come. -/
def readLetters (atStart isSet : Bool) (reading : OptionReading) (named : Nat) :
    Bytes → Except String (OptionReading × Nat)
  | [] => .ok (reading, named)
  | byte :: rest =>
    let letter := Char.ofNat byte.toNat
    if letter = 'c' ∧ atStart then
      readLetters atStart isSet { reading with runsText := true } named rest
    else if letter = 'l' ∧ atStart then readLetters atStart isSet reading named rest
    else if letter = 'o' then readLetters atStart isSet reading (named + 1) rest
    else if optionLetters.contains letter then
      let options := setOption reading.options isSet letter
      readLetters atStart isSet { reading with options } named rest
    else .error ("Illegal option -" ++ letter.toString)

/-- Reads options. So many names of options are still to come, which are set or unset. -/
def readOptions (atStart : Bool) (reading : OptionReading) (named : Nat) (isSet : Bool) :
    List Bytes → Except String OptionReading
  | [] => .ok (if named = 0 then reading else { reading with listing := some isSet })
  | argument :: rest =>
    match named, argument with
    | named + 1, name => do
      let name := name.toStringLossy
      match Entries.get? name optionNames with
      | some letter =>
        let options := setOption reading.options isSet letter
        readOptions atStart { reading with options } named isSet rest
      | none => throw ("Illegal option -o " ++ name)
    | 0, [45] => .ok { reading with rest := rest, dashes := 1 }
    | 0, [45, 45] => .ok { reading with rest := rest, dashes := 2 }
    | 0, first :: letters =>
      if first = 45 ∨ first = 43 then do
        let (reading, named) ← readLetters atStart (first == 45) reading 0 letters
        readOptions atStart reading named (first == 45) rest
      else .ok { reading with rest := argument :: rest }
    | 0, [] => .ok { reading with rest := argument :: rest }

/-- The letters of one argument that holds options. The last one is given back when its value is
still to come. -/
def lettersWithValues (withValue : List Char) : Bytes → List (Char × Bytes) × Option Char
  | [] => ([], none)
  | byte :: bytes =>
    let letter := Char.ofNat byte.toNat
    if withValue.contains letter then
      if bytes.isEmpty then ([], some letter) else ([(letter, bytes)], none)
    else
      let (others, pending) := lettersWithValues withValue bytes
      ((letter, []) :: others, pending)

/-- The options at the start of arguments by their letters, and the operands behind them. A letter
that takes a value has it behind itself or in the next argument. -/
def optionsAndOperands (withValue : List Char) : (pending : Option Char) → List Bytes →
    List (Char × Bytes) × List Bytes
  | none, [] => ([], [])
  | some letter, [] => ([(letter, [])], [])
  | some letter, value :: rest =>
    let (others, operands) := optionsAndOperands withValue none rest
    ((letter, value) :: others, operands)
  | none, argument :: rest =>
    match argument with
    | [45, 45] => ([], rest)
    | 45 :: letter :: letters =>
      let (found, pending) := lettersWithValues withValue (letter :: letters)
      let (others, operands) := optionsAndOperands withValue pending rest
      (found ++ others, operands)
    | _ => ([], argument :: rest)

/-- The options of a builtin at the start of its arguments, and the operands behind them. -/
def builtinOptions (known withValue : List Char) (arguments : List Bytes) :
    Except String (List (Char × Bytes) × List Bytes) := do
  let (found, operands) := optionsAndOperands withValue none arguments
  for (letter, value) in found do
    if withValue.contains letter then
      if value.isEmpty then throw ("No arg for -" ++ letter.toString ++ " option")
    else unless known.contains letter do throw ("Illegal option -" ++ letter.toString)
  return (found, operands)

/-- The options by name, for a reader or as commands that set them. -/
def optionListing (forReader : Bool) (options : List Char) : String :=
  let names := optionNames.reverse.map (fun (name, letter) => (name, options.contains letter)) ++
    [("nolog", false), ("debug", false)]
  let line (option : String × Bool) : String :=
    let (name, isSet) := option
    if forReader then
      name ++ String.ofList (List.replicate (16 - name.length) ' ') ++
        (if isSet then "on" else "off") ++ "\n"
    else "set " ++ (if isSet then "-o " else "+o ") ++ name ++ "\n"
  (if forReader then "Current option settings\n" else "") ++ String.join (names.map line)

/-- The number that an argument spells, with blanks around it and perhaps a sign. -/
def argumentNumber? (argument : Bytes) : Option Nat :=
  let isBlank (byte : UInt8) : Bool := byte == 32 || (9 ≤ byte && byte ≤ 13)
  let trimmed := ((argument.dropWhile isBlank).reverse.dropWhile isBlank).reverse
  let digits := match trimmed with
    | 43 :: rest => rest
    | _ => trimmed
  if digits.isEmpty ∨ digits.any (fun byte => byte < 48 || 57 < byte) then none
  else
    let value := digits.foldl (fun value byte => 10 * value + (byte.toNat - 48)) 0
    if value ≤ 2147483647 then some value else none

/-- A text between single quotes, as the shell can read it again. -/
def readable (text : String) : String :=
  "'" ++ "'\"'\"'".intercalate (text.splitOn "'") ++ "'"

end SyntaxFold.Sandbox.Shell
