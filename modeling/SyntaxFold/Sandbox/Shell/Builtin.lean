import SyntaxFold.Sandbox.Shell.Lookup
import SyntaxFold.Sandbox.Shell.Variable

/-!
# Builtins

The builtins that work on the script itself: they end it or leave loops and functions, send and take
in signals, change its parameters and options, and run texts and programs in it.
-/

namespace SyntaxFold.Sandbox.Shell

/-- Reads the number that a builtin may be given; without one the default is taken. -/
def withNumber (builtin : String) (isSpecial : Bool) (otherwise : Nat) (arguments : List Bytes)
    (action : Nat → Session Unit) : Session Unit :=
  match arguments with
  | [] => action otherwise
  | argument :: _ =>
    match argumentNumber? argument with
    | some number => action number
    | none => failIn builtin isSpecial ("Illegal number: " ++ argument.toStringLossy)

/-- Ends the script, with the status of the last command unless another one is given. -/
def exit (arguments : List Bytes) : Session Unit := do
  withNumber "exit" true (← get).status arguments fun status => do
    setStatus status
    halt (.exited status)

/-- Leaves a function. -/
def leaveFunction (arguments : List Bytes) : Session Unit := do
  withNumber "return" true (← get).status arguments fun status => do
    setStatus status
    halt .returned

/-- Leaves loops or goes on with their next round, as far as there are loops. -/
def leaveLoops (builtin : String) (stop : Nat → Stop) (arguments : List Bytes) : Session Unit :=
  withNumber builtin true 1 arguments fun count => do
    let loops := (← get).loops
    setStatus 0
    if count = 0 then failIn builtin true "Illegal number: 0"
    else if 0 < loops then halt (stop (min count loops))

/-- Drops parameters of the script from the start. -/
def shift (arguments : List Bytes) : Session Unit :=
  withNumber "shift" true 1 arguments fun count => do
    let state ← get
    if state.parameters.length < count then failIn "shift" true "can't shift that many"
    else set { state with parameters := state.parameters.drop count, status := 0 }

/-- Sets options and parameters, or lists the variables. -/
def setOptions (arguments : List Bytes) : Session Unit := do
  if arguments.isEmpty then
    let state ← get
    listVariables "" (state.bindings.map Prod.fst)
  else match readOptions false (.start (← get).options) 0 true arguments with
    | .error message => failIn "set" true message
    | .ok reading =>
      let options :=
        if reading.dashes = 1 then reading.options.filter fun option => option ≠ 'x' ∧ option ≠ 'v'
        else reading.options
      if options.contains 'm' then complainIn (some "set") noTerminal
      modify fun state => { state with options := options.filter (· != 'm'), status := 0 }
      if let some forReader := reading.listing then
        let _ ← emit 1 (Bytes.ofString (optionListing forReader (← get).options))
      if !reading.rest.isEmpty ∨ reading.dashes = 2 then
        modify fun state => { state with parameters := reading.rest }

/-- The number of a signal that is given by number or name. The end of the script counts as the
signal 0 where it may be given. -/
def signalOf? (withEnd : Bool) (text : String) : Option Nat :=
  if !text.toList.isEmpty ∧ text.toList.all Char.isDigit then
    text.toNat?.filter (· ≤ lastSignal)
  else if withEnd ∧ String.ofList (text.toList.map Char.toUpper) = "EXIT" then some 0
  else signalNumber? text

/-- Sets what is done at signals, or lists it. -/
def trap (arguments : List Bytes) : Session Unit := do
  let arguments := (if arguments.head? = some [45, 45] then arguments.drop 1 else arguments).map
    Bytes.toStringLossy
  setStatus 0
  match arguments with
  | [] =>
    let state ← get
    for (number, text) in state.traps.mergeSort fun left right => left.1 ≤ right.1 do
      let line := "trap -- " ++ readable text ++ " " ++ listedSignal number ++ "\n"
      let _ ← emit 1 (Bytes.ofString line)
  | first :: rest =>
    let firstIsNumber := first.toList.all Char.isDigit ∧ first ≠ ""
    let (action, signals) :=
      if rest.isEmpty ∨ firstIsNumber then (none, arguments)
      else if first = "-" then (none, rest)
      else (some first, rest)
    for signal in signals do
      if (← get).status = 0 then
        match signalOf? true signal with
        | none =>
          let _ ← emit 2 (Bytes.ofString ("trap: " ++ signal ++ ": bad trap\n"))
          setStatus 1
        | some number =>
          modify fun state => { state with
            traps := match action with
              | some text => Entries.insert number text state.traps
              | none => Entries.remove number state.traps }

/-- How signals are sent. -/
def killUsage : String :=
  "Usage: kill [-s sigspec | -signum | -sigspec] [pid | job]... or\nkill -l [exitstatus]"

/-- Sends a signal to every process that is named. Only the script itself can be reached. -/
def sendSignal (level : Level) (signal : Nat) (targets : List Bytes) : Session Unit := do
  setStatus 0
  for target in targets do
    if (← isRunning) ∧ (← get).status ≠ 2 then
      let text := target.toStringLossy
      let (digits, toGroup) := match target with
        | 45 :: digits => (digits, true)
        | digits => (digits, false)
      if text.startsWith "%" then failIn "kill" false ("No such job: " ++ text)
      else match argumentNumber? digits with
        | none => failIn "kill" false ("Illegal number: " ++ Bytes.toStringLossy digits)
        | some process =>
          if process = (← get).process ∧ ¬ toGroup then receive level signal
          else
            complainIn (some "kill") "No such process\n"
            setStatus 1

/-- Names a signal, or all. -/
def listSignals (operands : List Bytes) : Session Unit := do
  setStatus 0
  match operands with
  | [] =>
    let names := (List.range lastSignal).map fun number => listedSignal (number + 1)
    let _ ← emit 1 (Bytes.ofString ("0\n" ++ String.join (names.map (· ++ "\n"))))
  | operand :: _ =>
    match argumentNumber? operand with
    | none => failIn "kill" false ("Illegal number: " ++ operand.toStringLossy)
    | some status =>
      let number := if 128 < status then status - 128 else status
      if 0 < number ∧ number ≤ lastSignal then
        let _ ← emit 1 (Bytes.ofString (listedSignal number ++ "\n"))
      else
        failIn "kill" false
          ("invalid signal number or exit status: " ++ operand.toStringLossy)

/-- Sends a signal, or names signals. -/
def kill (level : Level) (arguments : List Bytes) : Session Unit := do
  let send (signal : Nat) (targets : List Bytes) : Session Unit :=
    if targets.isEmpty then failIn "kill" false killUsage else sendSignal level signal targets
  let byOptions : Session Unit :=
    match builtinOptions ['l'] ['s'] arguments with
    | .error message => failIn "kill" false message
    | .ok (found, operands) =>
      match Entries.get? 's' found with
      | some name =>
        match signalOf? false name.toStringLossy with
        | some signal => send signal operands
        | none =>
          failIn "kill" false ("invalid signal number or name: " ++ name.toStringLossy)
      | none =>
        if Entries.contains 'l' found then listSignals operands else send 15 operands
  match arguments with
  | (45 :: name) :: targets =>
    match signalOf? false (Bytes.toStringLossy name) with
    | some signal => send signal targets
    | none => byOptions
  | _ => byOptions

/-- Waits for commands in the background, which have ended before. -/
def wait (arguments : List Bytes) : Session Unit := do
  let state ← get
  match arguments with
  | [] => setStatus 0
  | target :: _ =>
    match argumentNumber? target with
    | none => failIn "wait" false ("Illegal number: " ++ target.toStringLossy)
    | some process =>
      let known := if process = state.process + 1 then state.background else none
      setStatus (known.getD 127)

/-- Changes the working directory. -/
def changeDirectory (arguments : List Bytes) : Session Unit := do
  match builtinOptions ['L', 'P'] [] arguments with
  | .error message => failIn "cd" false message
  | .ok (_, operands) =>
    let state ← get
    let here := state.directory.current
    let former := Bytes.ofString (state.directory.pathTo here)
    let goTo (place : Place) : Session Unit := do
      set { state.assign "OLDPWD" former with
        directory := { state.directory with current := place }
        status := 0 }
      modify fun state =>
        state.assign "PWD" (Bytes.ofString (state.directory.pathTo place))
    let target := match operands with
      | [] => (Entries.get? "HOME" state.bindings).getD []
      | [45] :: _ => (Entries.get? "OLDPWD" state.bindings).getD []
      | operand :: _ => operand
    let path := target.toStringLossy
    if path = "" then setStatus 0
    else match state.directory.locate path with
      | .ok (.found place .folder) =>
        goTo place
        if operands.head? = some [45] then
          let _ ← emit 1 (Bytes.ofString (state.directory.pathTo place ++ "\n"))
      | _ => failIn "cd" false ("can't cd to " ++ path)

/-- Runs the text that the arguments make. -/
def evaluate (level : Level) (tested : Bool) (arguments : List Bytes) : Session Unit := do
  let outer := (← get).context
  let arguments := if arguments.head? = some [45, 45] then arguments.drop 1 else arguments
  let text := Bytes.toStringLossy (List.intercalate [32] arguments)
  if (readScript text).commands.isEmpty then setStatus 0
  modify fun state => { state with context := some "eval" }
  runText level tested text
  modify fun state => { state with context := outer }

/-- Runs the text of a file. A name without a slash is searched like a program. -/
def source (level : Level) (arguments : List Bytes) : Session Unit := do
  let arguments := if arguments.head? = some [45, 45] then arguments.drop 1 else arguments
  match arguments with
  | [] => setStatus 0
  | argument :: _ =>
    let state ← get
    let name := argument.toStringLossy
    let isReadable (path : String) : Bool := (state.directory.entry path matches .ok (.file ..))
    let path? :=
      if name.toList.contains '/' then some name
      else (searchedPaths state name).find? isReadable
    match path? with
    | none => failIn "." true (name ++ ": not found")
    | some path =>
      match state.directory.content path with
      | .error fault =>
        let reason := match fault with
          | .notFound | .notDirectory => "No such file"
          | fault => fault.reason
        failIn "." true ("cannot open " ++ path ++ ": " ++ reason)
      | .ok content =>
        set { state with context := some path, status := 0 }
        runText level false (content.bytes : Bytes).toStringLossy
        modify fun inner => { inner with
          context := state.context
          stop := if inner.stop = some .returned then none else inner.stop }

/-- Lets a program take the place of the script. -/
def replace (level : Level) (arguments : List Bytes) : Session Unit := do
  let arguments := if arguments.head? = some [45, 45] then arguments.drop 1 else arguments
  match arguments with
  | [] => setStatus 0
  | name :: arguments =>
    match ← startNamed level name arguments with
    | .ended ending =>
      modify fun state => { state with traps := [] }
      match ending with
      | .exited status =>
        setStatus status
        halt (.exited status)
      | .killed signal => halt (.killed signal)
    | .refused fault =>
      let (message, status) := refusalOf name fault
      complainIn (some "exec") message
      setStatus status
      halt (.exited status)

/-- Says what names stand for. -/
def describeNames (short : Bool) (names : List Bytes) : Session Unit := do
  setStatus 0
  for name in names do
    let state ← get
    let name := name.toStringLossy
    match if short then resolvedName? state name else describedName? state name with
    | some text =>
      let _ ← emit 1 (Bytes.ofString (text ++ "\n"))
    | none =>
      unless short do
        let _ ← emit 1 (Bytes.ofString (name ++ ": not found\n"))
      setStatus 127

/-- Writes a text to the output. -/
def write (text : String) : Session Unit := do
  let _ ← emit 1 (Bytes.ofString text)
  setStatus 0

/-- A builtin that works on the script itself, on its arguments. -/
def stateBuiltin? (level : Level) (tested : Bool) (arguments : List Bytes) :
    String → Option (Session Unit)
  | "." => some (source level arguments)
  | "break" => some (leaveLoops "break" .broken arguments)
  | "continue" => some (leaveLoops "continue" .continued arguments)
  | "cd" | "chdir" => some (changeDirectory arguments)
  | "eval" => some (evaluate level tested arguments)
  | "exec" => some (replace level arguments)
  | "exit" => some (exit arguments)
  | "getopts" => some (takeOption arguments)
  | "export" => some (exportVariables arguments)
  | "kill" => some (kill level arguments)
  | "local" => some (localVariables arguments)
  | "pwd" => some do
    let directory := (← get).directory
    write (directory.pathTo directory.current ++ "\n")
  | "read" => some (readVariables arguments)
  | "readonly" => some (protectVariables arguments)
  | "return" => some (leaveFunction arguments)
  | "set" => some (setOptions arguments)
  | "shift" => some (shift arguments)
  | "times" => some (write "0m0.000000s 0m0.000000s\n0m0.000000s 0m0.000000s\n")
  | "trap" => some (trap arguments)
  | "type" => some (describeNames false arguments)
  | "ulimit" => some (write "unlimited\n")
  | "umask" => some (if arguments.isEmpty then write "0022\n" else setStatus 0)
  | "unset" => some (removeNames arguments)
  | "wait" => some (wait arguments)
  | _ => none

/-- A builtin, on its arguments. -/
def builtin? (level : Level) (tested : Bool) (name : String) (arguments : List Bytes) :
    Option (Session Unit) :=
  match plainBuiltin? name with
  | some utility => some (runPlainBuiltin utility name arguments)
  | none => stateBuiltin? level tested arguments name

/-- Runs a builtin or a program, but no function. -/
def runUnnamed (level : Level) (tested : Bool) (name : Bytes) (arguments : List Bytes) :
    Session Unit :=
  match builtin? level tested name.toStringLossy arguments with
  | some action => action
  | none => runProgram level name arguments

/-- Runs what the arguments name, passing over functions, or says what they stand for. -/
def command (level : Level) (tested : Bool) (arguments : List Bytes) : Session Unit := do
  match builtinOptions ['p', 'v', 'V'] [] arguments with
  | .error message => failIn "command" false message
  | .ok (found, operands) =>
    if Entries.contains 'v' found then describeNames true (operands.take 1)
    else if Entries.contains 'V' found then describeNames false (operands.take 1)
    else match operands.dropWhile (· == Bytes.ofString "command") with
      | [] => setStatus 0
      | name :: arguments => runUnnamed level tested name arguments

end SyntaxFold.Sandbox.Shell
