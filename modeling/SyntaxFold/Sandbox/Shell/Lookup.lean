import SyntaxFold.Sandbox.Shell.Expansion
import SyntaxFold.Sandbox.Utility.Files
import SyntaxFold.Sandbox.Utility.Printing
import SyntaxFold.Sandbox.Utility.Testing

/-!
# Looking up commands

What the name of a command stands for: a function, a builtin, or a program, which is found in the
directories of the search path. A program that is started from a script leaves its output, its
status, the files and the rest of the input to the script.
-/

namespace SyntaxFold.Sandbox.Shell

/-- The builtins that need nothing but their arguments and their input. -/
def plainBuiltin? (name : String) : Option (Utility.Request → Utility.Effect) :=
  match name with
  | "echo" => some Utility.echo
  | "printf" => some Utility.printf
  | "test" => some Utility.test
  | "[" => some Utility.bracketTest
  | ":" | "true" | "alias" | "bg" | "fg" | "hash" | "jobs" | "unalias" =>
    some fun request => request.ending 0
  | "false" => some fun request => request.ending 1
  | _ => none

/-- The names of the builtins that work on the script itself. -/
def stateBuiltins : List String :=
  [".", "break", "cd", "chdir", "command", "continue", "eval", "exec", "exit", "export", "getopts",
    "kill", "local", "pwd", "read", "readonly", "return", "set", "shift", "times", "trap", "type",
    "ulimit", "umask", "unset", "wait"]

/-- Whether a name is that of a builtin. -/
def isBuiltin (name : String) : Bool :=
  (plainBuiltin? name).isSome || stateBuiltins.contains name

/-- Whether what is at a path can be started. -/
def isProgram (directory : Directory) (path : String) : Bool :=
  match directory.entry path with
  | .ok (.file _ executable) => executable
  | .ok entry => entry == .program
  | .error _ => false

/-- The paths where a name without a slash is searched. -/
def searchedPaths (state : State) (name : String) : List String :=
  let folders := ((Entries.get? "PATH" state.bindings).getD [] : Bytes).toStringLossy.splitOn ":"
  folders.map fun folder => if folder = "" then name else folder ++ "/" ++ name

/-- The path of the program with a name. -/
def programPath? (state : State) (name : String) : Option String :=
  if name.toList.contains '/' then
    if isProgram state.directory name then some name else none
  else (searchedPaths state name).find? (isProgram state.directory)

/-- What happened to a program that was to be started. -/
inductive Started where
  | ended (ending : Ending)
  | refused (fault : FileFault)
  deriving DecidableEq, Repr

/-- Writes what a program wrote to the streams of the script. What the output does not take, the
program reports. -/
def passOn (name : Bytes) (written : List (Nat × Bytes)) : Session Bool := do
  let mut complete := true
  for (stream, bytes) in written do
    let taken ← emit stream bytes
    if !taken ∧ stream = 1 then complete := false
  unless complete do
    let full := Entries.get? 1 (← get).routes == some .full
    let reason := if full then FileFault.noSpace.reason else "Bad file descriptor"
    let _ ← emit 2 (name ++ Bytes.ofString (": write error: " ++ reason ++ "\n"))
  return complete

/-- Takes over the files and the input that a program or a utility left. -/
def takeOver (directory : Directory) (input : Bytes) : Session Unit := do
  let current := (← get).directory.current
  modify fun state => { state.leaving input with directory := { directory with current } }

/-- Starts the program at a path. -/
def startAt (level : Level) (path : String) (name : Bytes) (arguments : List Bytes) :
    Session Started := do
  let state ← get
  let call : Call :=
    { program := path
      name := name
      arguments := arguments
      input := state.input
      environment := state.environment
      directory := state.directory
      process := state.process + 1 }
  match level.start call with
  | .error fault => return .refused fault
  | .ok outcome =>
    takeOver outcome.directory outcome.input
    let complete ← passOn name outcome.written
    return .ended (if complete ∨ outcome.ending ≠ .exited 0 then outcome.ending else .exited 1)

/-- Starts the program at a path. A file that is no program is taken for a script of the shell. -/
def startOrRead (level : Level) (path : String) (name : Bytes) (arguments : List Bytes) :
    Session Started := do
  match ← startAt level path name arguments with
  | .refused .wrongFormat =>
    startAt level "/bin/sh" (Bytes.ofString "/bin/sh") (Bytes.ofString path :: arguments)
  | started => return started

/-- Starts the program with a name. In the search path, what cannot be started is passed over. -/
def startNamed (level : Level) (name : Bytes) (arguments : List Bytes) : Session Started := do
  let state ← get
  let text := name.toStringLossy
  if text.toList.contains '/' then startOrRead level text name arguments
  else match programPath? state text with
    | some path => startOrRead level path name arguments
    | none =>
      let isThere (path : String) : Bool :=
        text ≠ "" && (state.directory.entry path matches .ok (.file ..))
      return .refused (if (searchedPaths state text).any isThere then .permissionDenied
        else if maxPartLength < text.utf8ByteSize then .nameTooLong
        else .notFound)

/-- The complaint about a program that could not be started, and the status that it leads to. An
empty name leads to the directories of programs themselves. -/
def refusalOf (name : Bytes) (fault : FileFault) : String × Nat :=
  let reason := match fault with
    | .notFound | .notDirectory =>
      if name.isEmpty then FileFault.permissionDenied.reason else "not found"
    | fault => fault.reason
  let status := match fault with
    | .notFound | .notDirectory | .nameTooLong | .tooManyLinks => 127
    | _ => 126
  (name.toStringLossy ++ ": " ++ reason, status)

/-- Starts the program with a name, and takes its status. How a signal ended it is reported. -/
def runProgram (level : Level) (name : Bytes) (arguments : List Bytes) : Session Unit := do
  match ← startNamed level name arguments with
  | .ended ending =>
    if let .killed signal := ending then
      if let some text := signalText? signal then
        let _ ← emit 2 (Bytes.ofString (text ++ "\n"))
    setStatus ending.status
  | .refused fault =>
    let (message, status) := refusalOf name fault
    complain message
    setStatus status

/-- Runs a utility as a builtin. -/
def runPlainBuiltin (utility : Utility.Request → Utility.Effect) (name : String)
    (arguments : List Bytes) : Session Unit := do
  let state ← get
  let announce := ": " ++ state.line.repr ++ ": " ++ name ++ ": "
  let effect := utility
    { announce := state.name ++ Bytes.ofString announce
      arguments := arguments
      input := state.input
      directory := state.directory }
  takeOver effect.directory effect.input
  let mut complete := true
  for (stream, bytes) in effect.written do
    let taken ← emit stream bytes
    if !taken ∧ stream = 1 then complete := false
  setStatus effect.status
  unless complete do
    complainIn name (name ++ ": I/O error")
    setStatus 1

/-- What a name stands for, in words. -/
def describedName? (state : State) (name : String) : Option String :=
  if keywords.contains name then some (name ++ " is a shell keyword")
  else if (Entries.get? name state.functions).isSome then some (name ++ " is a shell function")
  else if specialBuiltins.contains name then some (name ++ " is a special shell builtin")
  else if isBuiltin name then some (name ++ " is a shell builtin")
  else (programPath? state name).map fun path => name ++ " is " ++ path

/-- What a name stands for: itself, or the path of a program. -/
def resolvedName? (state : State) (name : String) : Option String :=
  if keywords.contains name ∨ (Entries.get? name state.functions).isSome ∨ isBuiltin name then
    some name
  else programPath? state name

end SyntaxFold.Sandbox.Shell
