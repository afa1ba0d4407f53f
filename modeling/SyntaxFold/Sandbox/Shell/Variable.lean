import SyntaxFold.Sandbox.Shell.Options
import SyntaxFold.Sandbox.Shell.Expansion

/-!
# Variables of a script

The builtins that give variables values, mark them, or remove them. A variable that is read only
keeps its value to the end of the script.
-/

namespace SyntaxFold.Sandbox.Shell

/-- Gives a variable a value unless it is read only, and says whether it was possible. -/
def assignIfAllowed (name : String) (value : Bytes) : Session Bool := do
  let state ← get
  if state.readOnly.contains name then return false
  else
    set (state.assign name value)
    if state.has 'a' ∧ ¬ state.exported.contains name then
      modify fun state => { state with exported := name :: state.exported }
    return true

/-- Gives a variable a value. One that is read only ends the script. -/
def assign (name : String) (value : Bytes) : Session Unit := do
  unless ← assignIfAllowed name value do abandon 2 (name ++ ": is read only")

/-- What an argument declares: a name, and its value if it has one. -/
def declaration (argument : Bytes) : String × Option Bytes :=
  let name : Bytes := argument.takeWhile (· != 61)
  match argument.dropWhile (· != 61) with
  | [] => (name.toStringLossy, none)
  | _ :: value => (name.toStringLossy, some value)

/-- A variable as a declaration. -/
def declarationText (keyword : String) (name : String) (value : Option Bytes) : Bytes :=
  let assigned := (value.map fun value => "=" ++ readable value.toStringLossy).getD ""
  Bytes.ofString (keyword ++ name ++ assigned ++ "\n")

/-- Writes the declarations of variables, in the order of their names. -/
def listVariables (keyword : String) (names : List String) : Session Unit := do
  let state ← get
  for name in names.mergeSort do
    let value := Entries.get? name state.bindings
    let _ ← emit 1 (declarationText keyword name value)
  setStatus 0

/-- Declares variables by a builtin: each is marked, and gets a value if one is given. -/
def declare (builtin : String) (listed : State → List String) (mark : String → State → State)
    (arguments : List Bytes) : Session Unit := do
  match builtinOptions ['p'] [] arguments with
  | .error message => failIn builtin true message
  | .ok (_, operands) =>
    if operands.isEmpty then listVariables (builtin ++ " ") (listed (← get))
    else
      setStatus 0
      for operand in operands do
        if ← isRunning then
          let (name, value) := declaration operand
          if !isName name then failIn builtin true (name ++ ": bad variable name")
          else
            let allowed ← match value with
              | some value => assignIfAllowed name value
              | none => pure true
            if allowed then modify (mark name)
            else failIn builtin true (name ++ ": is read only")

/-- Lets programs see variables. -/
def exportVariables : List Bytes → Session Unit :=
  declare "export" State.exported fun name state =>
    { state with exported := name :: state.exported.filter (· != name) }

/-- Keeps variables from being changed. -/
def protectVariables : List Bytes → Session Unit :=
  declare "readonly" State.readOnly fun name state =>
    { state with readOnly := name :: state.readOnly.filter (· != name) }

/-- Gives a function variables of its own. -/
def localVariables (arguments : List Bytes) : Session Unit := do
  match (← get).hidden with
  | none => failIn "local" true "not in a function"
  | some _ =>
    setStatus 0
    for argument in arguments do
      if ← isRunning then
        let (name, value) := declaration argument
        if !isName name then failIn "local" true (name ++ ": bad variable name")
        else
          modify fun state =>
            { state with
              hidden := state.hidden.map fun hidden =>
                if Entries.contains name hidden then hidden
                else (name, Entries.get? name state.bindings) :: hidden }
          if let some value := value then
            unless ← assignIfAllowed name value do
              failIn "local" true (name ++ ": is read only")

/-- Removes variables or functions. -/
def removeNames (arguments : List Bytes) : Session Unit := do
  match builtinOptions ['f', 'v'] [] arguments with
  | .error message => failIn "unset" true message
  | .ok (found, operands) =>
    setStatus 0
    let isFunction := (found.getLast?.map Prod.fst) == some 'f'
    for operand in operands do
      if ← isRunning then
        let name := operand.toStringLossy
        let state ← get
        if isFunction then set { state with functions := Entries.remove name state.functions }
        else if !isName name then failIn "unset" true (name ++ ": bad variable name")
        else if state.readOnly.contains name then failIn "unset" true (name ++ ": is read only")
        else
          set { state with
            bindings := Entries.remove name state.bindings
            exported := state.exported.filter (· != name) }

/-- The values that variables had before, put back in their places. -/
def restored (hidden : List (String × Option Bytes)) (state : State) : State :=
  hidden.foldl (fun state (name, value) =>
    { state with
      bindings := match value with
        | some value => Entries.insert name value state.bindings
        | none => Entries.remove name state.bindings }) state

/-- A line of the input, told apart from what is behind it. Each byte comes with whether a backslash
stood before it. A backslash at the end of a line continues it. -/
def readInputLine (raw : Bool) : Bytes → List Cell × Bytes × Bool
  | [] => ([], [], false)
  | 10 :: rest => ([], rest, true)
  | 92 :: byte :: rest =>
    if raw then
      let (line, behind, ended) := readInputLine raw (byte :: rest)
      (⟨92, true⟩ :: line, behind, ended)
    else
      let (line, behind, ended) := readInputLine raw rest
      (if byte = 10 then line else ⟨byte, false⟩ :: line, behind, ended)
  | byte :: rest =>
    let (line, behind, ended) := readInputLine raw rest
    (⟨byte, true⟩ :: line, behind, ended)

/-- Whether a byte of a line separates fields, as a blank or otherwise. -/
def Cell.isIn (separators : Bytes) (cell : Cell) : Bool :=
  cell.special && separators.contains cell.byte

/-- Drops blanks, and a separator with the blanks behind it. -/
def dropSeparator (blanks others : Bytes) (line : List Cell) : List Cell :=
  match line.dropWhile (·.isIn blanks) with
  | cell :: rest =>
    if cell.isIn others then rest.dropWhile (·.isIn blanks) else cell :: rest
  | [] => []

/-- Drops blanks at the end. -/
def dropLastBlanks (blanks : Bytes) (line : List Cell) : List Cell :=
  (line.reverse.dropWhile (·.isIn blanks)).reverse

/-- Tells the fields of a line apart, one for each of so many variables. The last one takes all that
is left, but for a separator if only a field and its separator are left. -/
def lineFields (blanks others : Bytes) : (variablesLeft : Nat) → List Cell → List Bytes
  | 0, _ => []
  | 1, line =>
    let line := dropLastBlanks blanks line
    let field := line.takeWhile fun cell => !(cell.isIn blanks || cell.isIn others)
    let behind := dropSeparator blanks others (line.drop field.length)
    [cellBytes (if behind.isEmpty then field else line)]
  | count + 1, line =>
    let field := line.takeWhile fun cell => !(cell.isIn blanks || cell.isIn others)
    cellBytes field ::
      lineFields blanks others count (dropSeparator blanks others (line.drop field.length))

/-- Reads a line of the input into variables. -/
def readVariables (arguments : List Bytes) : Session Unit := do
  match builtinOptions ['r'] ['p'] arguments with
  | .error message => failIn "read" false message
  | .ok (found, operands) =>
    let names := (operands.map Bytes.toStringLossy)
    if let some prompt := Entries.get? 'p' found then
      let _ ← emit 2 prompt
    if names.isEmpty then failIn "read" false "arg count"
    else match names.find? (!isName ·) with
    | some name => failIn "read" false (name ++ ": bad variable name")
    | none =>
      let state ← get
      let (line, input, ended) := readInputLine (Entries.contains 'r' found) state.input
      set { state.leaving input with status := if ended then 0 else 1 }
      let ⟨blanks, others⟩ := Fragment.Separators.ofState state
      let line := (line.filter (·.byte != 0)).dropWhile (·.isIn blanks)
      for (name, value) in names.zip (lineFields blanks others names.length line) do
        unless ← assignIfAllowed name value do
          failIn "read" false (name ++ ": is read only")

/-- An option taken from arguments. -/
structure TakenOption where
  /-- The letter; a question mark stands for one that is refused, and for the end of the options. -/
  letter : UInt8
  value : Option Bytes
  complaint : String
  /-- The number of the argument behind the option. -/
  next : Nat
  offset : Option Nat
  isEnd : Bool

/-- Takes the option whose letter is at the start of a text in the argument before the given one. -/
def TakenOption.ofLetters (known : Bytes) (arguments : List Bytes) (next offset : Nat)
    (letter : UInt8) (rest : Bytes) : TakenOption :=
  let quiet := known.head? == some 58
  let shown := (Char.ofNat letter.toNat).toString
  let offset? := if rest.isEmpty then none else some (offset + 1)
  match known.dropWhile (· != letter) with
  | [] =>
    let complaint := if quiet then "" else "Illegal option -" ++ shown ++ "\n"
    ⟨63, if quiet then some [letter] else none, complaint, next, offset?, false⟩
  | _ :: 58 :: _ =>
    if !rest.isEmpty then ⟨letter, some rest, "", next, none, false⟩
    else match arguments[next - 1]? with
      | some value => ⟨letter, some value, "", next + 1, none, false⟩
      | none =>
        if quiet then ⟨58, some [letter], "", next, none, false⟩
        else ⟨63, none, "No arg for -" ++ shown ++ " option\n", next, none, false⟩
  | _ => ⟨letter, some [], "", next, offset?, false⟩

/-- Takes the next option from arguments: the one at an offset in the argument that was begun, or
the first one in the next argument. -/
def TakenOption.ofArguments (known : Bytes) (arguments : List Bytes) (next : Nat)
    (offset : Option Nat) : TakenOption :=
  let begun := match offset with
    | some offset => ((arguments[next - 2]?).getD []).drop offset
    | none => []
  match begun with
  | letter :: rest => ofLetters known arguments next (offset.getD 0) letter rest
  | [] =>
    match arguments[next - 1]? with
    | some [45, 45] => ⟨63, none, "", next + 1, none, true⟩
    | some (45 :: letter :: rest) => ofLetters known arguments (next + 1) 1 letter rest
    | _ => ⟨63, none, "", next, none, true⟩

/-- Takes the next option from the parameters of the script, or from other arguments. -/
def takeOption (arguments : List Bytes) : Session Unit := do
  match arguments with
  | known :: name :: others =>
    let state ← get
    let next := ((Entries.get? "OPTIND" state.bindings).bind argumentNumber?).getD 1
    let arguments := if others.isEmpty then state.parameters else others
    let offset := if next ≤ 1 then none else state.optionOffset
    let taken := TakenOption.ofArguments known arguments (max next 1) offset
    let _ ← emit 2 (Bytes.ofString taken.complaint)
    let value := if taken.isEnd then [] else [("OPTARG", taken.value)]
    modify fun state => { restored value state with
      optionOffset := taken.offset
      status := if taken.isEnd then 1 else 0 }
    modify fun state => state.assign "OPTIND" (Bytes.ofString taken.next.repr)
    assign name.toStringLossy [taken.letter]
  | _ => failIn "getopts" false "Usage: getopts optstring var [arg]"

end SyntaxFold.Sandbox.Shell
