import SyntaxFold.Sandbox.Directory.Basic
import SyntaxFold.Sandbox.Shell.Command
import SyntaxFold.Sandbox.Signal

/-!
# Shell states

What a running script can see and change: its variables and parameters, the status of the last
command, where its streams come from and lead to, what is left of the texts that it reads, what has
been written, and the files.
Everything written is kept in order under the number of the sink that it ran into: 1 for output, 2
for errors, and larger ones for output that the script itself takes up again.
-/

namespace SyntaxFold.Sandbox.Shell

/-- Where a stream leads. -/
inductive Destination where
  | sink (number : Nat)
  | file (place : Place)
  | nowhere
  /-- To where nothing can be written. -/
  | full
  deriving DecidableEq, Repr

/-- Why the commands that follow are not run. -/
inductive Stop where
  /-- The script, or the part of it that is isolated, has come to its end. -/
  | exited (status : Nat)
  /-- A signal has ended the whole program. -/
  | killed (signal : Nat)
  /-- A function is left. -/
  | returned
  /-- Loops are left, as many as the number says. -/
  | broken (loops : Nat)
  /-- Loops are left but for the last one, which goes on with its next round. -/
  | continued (loops : Nat)
  deriving DecidableEq, Repr

/-- The state of a script. -/
structure State where
  bindings : List (String × Bytes)
  /-- The variables that programs see which the script starts. -/
  exported : List String
  readOnly : List String
  functions : List (String × Command)
  /-- The name of the script. -/
  name : Bytes
  parameters : List Bytes
  /-- How far the option that was taken last reaches into its argument, unless it ends it. -/
  optionOffset : Option Nat
  /-- The number by which the script can send a signal to itself. -/
  process : Nat
  status : Nat
  /-- The status of the last substitution in the command that is being expanded. -/
  substituted : Nat
  /-- The status of the last command that was sent to the background, if there was one. -/
  background : Option Nat
  line : Nat
  /-- The builtin that the commands are run by. -/
  context : Option String
  /-- The options that are set. -/
  options : List Char
  /-- The commands to run at the end, which has the number 0, or when a signal arrives. -/
  traps : List (Nat × String)
  /-- The traps of the whole script, while an isolated part of it is run. -/
  outerTraps : Option (List (Nat × String))
  /-- The signals for which the whole script still has to run its traps. -/
  pending : List Nat
  /-- How many loops are being run. -/
  loops : Nat
  /-- The variables that the running function has of its own, with the values that they hide. There
  are none outside functions. -/
  hidden : Option (List (String × Option Bytes))
  /-- What is left of each text that is read; the first one is the input of the whole script. -/
  sources : List Bytes
  /-- The texts that streams read, by their positions. -/
  feeds : List (Nat × Nat)
  routes : List (Nat × Destination)
  written : List (Nat × Bytes)
  sinks : Nat
  directory : Directory
  stop : Option Stop

/-- The directories in which programs are searched unless a script says otherwise. -/
def searchPath : String := "/usr/local/sbin:/usr/local/bin:/usr/sbin:/usr/bin:/sbin:/bin"

/-- The options of the shell by name, in the order in which the shell tells which are set. -/
def optionNames : List (String × Char) :=
  [("privileged", 'p'), ("nounset", 'u'), ("notify", 'b'), ("allexport", 'a'), ("noclobber", 'C'),
    ("emacs", 'E'), ("vi", 'V'), ("verbose", 'v'), ("xtrace", 'x'), ("stdin", 's'), ("noexec", 'n'),
    ("monitor", 'm'), ("interactive", 'i'), ("ignoreeof", 'I'), ("noglob", 'f'), ("errexit", 'e')]

/-- The letters of the options of the shell. -/
def optionLetters : List Char := optionNames.map Prod.snd

/-- What is done in a script. -/
abbrev Session := StateM State

namespace State

/-- The state in which a script starts. -/
def start (name : Bytes) (parameters : List Bytes) (input : Bytes) (directory : Directory)
    (environment : List (String × Bytes)) (process : Nat) : State where
  bindings := Entries.ofPairs
    ([("IFS", [32, 9, 10]), ("OPTIND", [49]), ("PATH", Bytes.ofString searchPath)] ++
      environment.filter (·.1 != "IFS"))
  exported := environment.map Prod.fst
  readOnly := []
  functions := []
  name := name
  parameters := parameters
  optionOffset := none
  process := process
  status := 0
  substituted := 0
  background := none
  line := 1
  context := none
  options := []
  traps := []
  outerTraps := none
  pending := []
  loops := 0
  hidden := none
  sources := [input]
  feeds := [(0, 0)]
  routes := [(1, .sink 1), (2, .sink 2)]
  written := []
  sinks := 2
  directory := directory
  stop := none

/-- Whether an option is set. -/
def has (state : State) (option : Char) : Bool := state.options.contains option

/-- The variables that programs see which the script starts. -/
def environment (state : State) : List (String × Bytes) :=
  state.bindings.filter fun binding => state.exported.contains binding.1

/-- The value of a parameter that is not a list, if it has one. -/
def parameter? (state : State) (name : String) : Option Bytes :=
  match name with
  | "0" => some state.name
  | "#" => some (Bytes.ofString state.parameters.length.repr)
  | "?" => some (Bytes.ofString state.status.repr)
  | "$" => some (Bytes.ofString state.process.repr)
  | "!" => state.background.map fun _ => Bytes.ofString (state.process + 1).repr
  | "-" => some (Bytes.ofString (String.ofList (optionLetters.filter state.options.contains)))
  | _ =>
    match name.toNat? with
    | some position => state.parameters[position - 1]?
    | none => Entries.get? name state.bindings

/-- What is left to be read from a stream. -/
def left (state : State) (stream : Nat) : Bytes :=
  ((Entries.get? stream state.feeds).bind fun source => state.sources[source]?).getD []

/-- What is left of the input. -/
def input (state : State) : Bytes := state.left 0

/-- Leaves so much of the input. -/
def leaving (state : State) (input : Bytes) : State :=
  match Entries.get? 0 state.feeds with
  | some source => { state with sources := state.sources.set source input }
  | none => state

/-- Lets a stream read a text that it shares with nothing. -/
def feeding (state : State) (stream : Nat) (text : Bytes) : State :=
  { state with
    sources := state.sources ++ [text]
    feeds := Entries.insert stream state.sources.length state.feeds
    routes := Entries.remove stream state.routes }

/-- Puts the streams back to where they came from and led to in an earlier state. What was read
since then stays read. -/
def withStreamsOf (state outer : State) : State :=
  { state with
    sources := state.sources.take outer.sources.length
    feeds := outer.feeds
    routes := outer.routes }

/-- Gives a variable a value. -/
def assign (state : State) (name : String) (value : Bytes) : State :=
  { state with bindings := Entries.insert name value state.bindings }

end State

/-- Adds to the content of the file at a place. -/
def append (directory : Directory) (place : Place) (bytes : Bytes) : Directory :=
  match directory.entryAt? place with
  | some (.file content executable) =>
    directory.put place (.file (.ofBytes (content.bytes ++ bytes)) executable)
  | _ => directory

/-- Writes to a stream, and says whether the stream could take it. -/
def emit (stream : Nat) (bytes : Bytes) : Session Bool := do
  let state ← get
  match Entries.get? stream state.routes with
  | none | some .full => return bytes.isEmpty
  | some .nowhere => return true
  | some (.sink number) =>
    unless bytes.isEmpty do set { state with written := (number, bytes) :: state.written }
    return true
  | some (.file place) =>
    set { state with directory := append state.directory place bytes }
    return true

/-- Sets the status of the last command. -/
def setStatus (status : Nat) : Session Unit := modify fun state => { state with status }

/-- Keeps the commands that follow from being run. -/
def halt (stop : Stop) : Session Unit := modify fun state => { state with stop := some stop }

/-- Writes a message to the errors, with the name of the script and the line in front, and the
builtin that it is about. -/
def complainIn (context : Option String) (message : String) : Session Unit := do
  let state ← get
  let context := (context.map fun name => name ++ ": ").getD ""
  let text := ": " ++ state.line.repr ++ ": " ++ context ++ message ++ "\n"
  let _ ← emit 2 (state.name ++ Bytes.ofString text)

/-- Writes a message to the errors, about the builtin that the commands are run by. -/
def complain (message : String) : Session Unit := do
  complainIn (← get).context message

/-- Complains, and ends the script with a status. -/
def abandon (status : Nat) (message : String) : Session Unit := do
  complain message
  setStatus status
  halt (.exited status)

/-- Reports why a builtin failed. A special one ends the script. -/
def failIn (builtin : String) (isSpecial : Bool) (message : String) : Session Unit := do
  complainIn builtin message
  setStatus 2
  if isSpecial then halt (.exited 2)

/-- Whether commands are run. -/
def isRunning : Session Bool := return (← get).stop.isNone

/-- Does something and takes up what it wrote to its output. -/
def capturing (action : Session Unit) : Session Bytes := do
  let outer ← get
  let sink := outer.sinks + 1
  set { outer with sinks := sink, routes := Entries.insert 1 (.sink sink) outer.routes }
  action
  let inner ← get
  set { inner with
    routes := outer.routes
    written := inner.written.filter (·.1 != sink) }
  return (inner.written.reverse.filter (·.1 == sink)).flatMap Prod.snd

end SyntaxFold.Sandbox.Shell
