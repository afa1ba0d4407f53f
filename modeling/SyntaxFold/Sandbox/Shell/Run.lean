import SyntaxFold.Sandbox.Shell.Builtin
import SyntaxFold.Sandbox.Shell.Redirect

/-!
# Running commands

What each command does to the state of a script. The commands inside it are run one level further
down. A failure ends the script only where an option says so and nothing tests the status.
-/

namespace SyntaxFold.Sandbox.Shell

/-- Ends the script after a failure, where an option says so and the status is not tested. -/
def endAfterFailure (tested : Bool) : Session Unit := do
  let state ← get
  if !tested ∧ state.has 'e' ∧ state.status ≠ 0 ∧ state.stop.isNone then
    halt (.exited state.status)

/-- Runs the body of a function, with parameters and variables of its own. -/
def callFunction (level : Level) (tested : Bool) (body : Command) (arguments : List Bytes) :
    Session Unit := do
  let outer ← get
  set { outer with parameters := arguments, optionOffset := none, loops := 0, hidden := some [] }
  level.run tested body
  modify fun inner => { restored (inner.hidden.getD []) inner with
    parameters := outer.parameters
    optionOffset := outer.optionOffset
    loops := outer.loops
    hidden := outer.hidden
    stop := if inner.stop = some .returned then none else inner.stop }

/-- Runs the command that words stand for. -/
def runNamed (level : Level) (tested : Bool) : List Bytes → Session Unit
  | [] => return
  | name :: arguments => do
    let state ← get
    let text := name.toStringLossy
    match Entries.get? text state.functions with
    | some body => callFunction level tested body arguments
    | none =>
      if text = "command" then command level tested arguments
      else runUnnamed level tested name arguments

/-- Assigns what the words of assignments stand for, and gives the values back. A later assignment
sees what an earlier one did. -/
def runAssignments (level : Level) (assignments : List (String × Word)) :
    Session (List (String × Bytes)) := do
  let mut assigned := []
  for (name, word) in assignments do
    if ← isRunning then
      let value ← expandText level word
      if ← isRunning then
        assign name value
        assigned := assigned ++ [(name, value)]
  return assigned

/-- Writes a command before it is run, where an option says so. -/
def trace (destination : Option Destination) (assigned : List (String × Bytes))
    (fields : List Bytes) : Session Unit := do
  let state ← get
  if state.has 'x' then
    let shown := assigned.map fun (name, value) => Bytes.ofString (name ++ "=") ++ value
    let start := (Entries.get? "PS4" state.bindings).getD [43, 32]
    set { state with
      routes := match destination with
        | some destination => Entries.insert 2 destination state.routes
        | none => Entries.remove 2 state.routes }
    let _ ← emit 2 (start ++ List.intercalate [32] (shown ++ fields) ++ [10])
    modify fun inner => { inner with routes := state.routes }

/-- Runs a command on the fields that its words make. Assignments are kept if there is no command or
a special builtin; any other command sees them while it runs. -/
def runFields (level : Level) (tested isSpecial : Bool) (errors : Option Destination)
    (assignments : List (String × Word)) (fields : List Bytes) : Session Unit := do
  let before ← get
  let assigned ← runAssignments level assignments
  if ← isRunning then
    trace errors assigned fields
    if fields.isEmpty then setStatus (← get).substituted
    else if isSpecial then runNamed level tested fields
    else
      let names := assigned.map Prod.fst
      modify fun state => { state with exported := names ++ state.exported }
      runNamed level tested fields
      modify fun state =>
        { restored (names.map fun name => (name, Entries.get? name before.bindings)) state with
          exported := state.exported.drop names.length }

/-- Runs a simple command: its words are expanded first, then the streams are redirected, and last
the assignments are made. -/
def runSimple (level : Level) (tested : Bool) (line : Nat) (assignments : List (String × Word))
    (words : List Word) (redirections : List Redirection) : Session Unit := do
  modify fun state => { state with line := line, substituted := 0 }
  let fields ← expandFields level words
  let outer ← get
  if outer.stop.isNone then
    let name := (fields.head?.map Bytes.toStringLossy).getD ""
    let isSpecial := specialBuiltins.contains name
    let errors := Entries.get? 2 outer.routes
    if ← redirectAll level redirections then
      runFields level tested isSpecial errors assignments fields
      unless name = "exec" ∧ (← isRunning) do modify fun state => state.withStreamsOf outer
    else
      modify fun state => state.withStreamsOf outer
      setStatus 2
      if isSpecial ∧ (← isRunning) then halt (.exited 2)
    endAfterFailure tested

/-- What a round of a loop says about the next one. -/
inductive Round where
  | again
  | leave
  deriving DecidableEq, Repr

/-- What the end of commands in a loop means for the loop. -/
def closeRound : Session Round := do
  let state ← get
  match state.stop with
  | none => return .again
  | some (.continued 1) =>
    set { state with stop := none }
    return .again
  | some (.broken 1) =>
    set { state with stop := none }
    return .leave
  | some (.continued (loops + 1)) =>
    set { state with stop := some (.continued loops) }
    return .leave
  | some (.broken (loops + 1)) =>
    set { state with stop := some (.broken loops) }
    return .leave
  | some _ => return .leave

/-- How many rounds of a loop are run at most. -/
def maxRounds : Nat := 10000000

/-- Counts a loop while it is run. -/
def asLoop (action : Session Unit) : Session Unit := do
  modify fun state => { state with loops := state.loops + 1 }
  action
  modify fun state => { state with loops := state.loops - 1 }

/-- Runs one round of a loop whose last round had the given status, and says what is next. -/
def runRound (level : Level) (tested whileTrue : Bool) (condition body : Command) (last : Nat) :
    Session (Round × Nat) := do
  level.run true condition
  let state ← get
  if state.stop.isSome then
    let next ← closeRound
    return (next, if state.stop = some .returned then state.status else last)
  else if (state.status == 0) == whileTrue then
    level.run tested body
    let status := (← get).status
    return (← closeRound, status)
  else return (.leave, last)

/-- Runs rounds up to the one that says to leave. The status is that of the last body. -/
def runRounds (round : Nat → Session (Round × Nat)) (last : Nat) : (limit : Nat) → Session Unit
  | 0 => return
  | limit + 1 => do
    match ← round last with
    | (.again, last) => runRounds round last limit
    | (.leave, last) =>
      if (← isRunning) ∨ (← get).stop = some .returned then setStatus last

/-- Runs commands for every value in turn. -/
def runEach (level : Level) (tested : Bool) (name : String) (words : Option (List Word))
    (body : Command) : Session Unit := do
  let values ← match words with
    | some words => expandFields level words
    | none => pure (← get).parameters
  if ← isRunning then
    setStatus 0
    asLoop do
      let mut next := Round.again
      for value in values do
        if next = .again then
          assign name value
          if ← isRunning then level.run tested body
          next ← closeRound

/-- Runs the commands of the first arm that has a pattern for the subject. -/
def runChoice (level : Level) (tested : Bool) (subject : Bytes) :
    List (List Word × Command) → Session Unit
  | [] => setStatus 0
  | (patterns, body) :: arms => do
    let mut found := false
    for pattern in patterns do
      if !found ∧ (← isRunning) then
        let pattern := Fragment.pattern (← expandWord level pattern)
        if matchesWhole pattern subject then found := true
    if ← isRunning then
      if found then level.run tested body else runChoice level tested subject arms

/-- Runs the stages of a pipeline one after the other. Each takes what the one before wrote as its
input; what the first one leaves of the script's input stays there. -/
def runStages (level : Level) (tested : Bool) : List Command → Session Unit
  | [] => return
  | [stage] => isolated level (level.run tested stage)
  | stage :: stages => do
    let outer ← get
    let output ← capturing (isolated level (level.run tested stage))
    if ← isRunning then
      modify fun state => { state.feeding 0 output with status := outer.status }
      runStages level tested stages
    modify fun state => state.withStreamsOf outer

/-- Runs commands one after the other. -/
def runSequence (level : Level) (tested : Bool) : List Command → Session Unit
  | [] => return
  | command :: commands => do
    level.run tested command
    if ← isRunning then runSequence level tested commands

/-- Turns a success into a failure and a failure into a success. -/
def negateStatus : Session Unit :=
  modify fun state => { state with status := if state.status = 0 then 1 else 0 }

/-- Runs a command, whatever the options say. -/
def runAnyway (level : Level) (tested : Bool) : Command → Session Unit
  | .simple line assignments words redirections =>
    runSimple level tested line assignments words redirections
  | .pipeline negated [stage] => do
    level.run (tested || negated) stage
    if negated ∧ (← isRunning) then negateStatus
  | .pipeline negated stages => do
    runStages level (tested || negated) stages
    if ← isRunning then
      if negated then negateStatus else endAfterFailure tested
  | .sequence [] => setStatus 0
  | .sequence commands => runSequence level tested commands
  | .both left right => do
    level.run true left
    if (← isRunning) ∧ (← get).status = 0 then level.run tested right
  | .either left right => do
    level.run true left
    if (← isRunning) ∧ (← get).status ≠ 0 then level.run tested right
  | .branch condition whenTrue whenFalse => do
    level.run true condition
    if ← isRunning then
      level.run tested (if (← get).status = 0 then whenTrue else whenFalse)
  | .loop whileTrue condition body =>
    asLoop (runRounds (runRound level tested whileTrue condition body) 0 maxRounds)
  | .each name words body => runEach level tested name words body
  | .choice subject arms => do
    let subject ← expandText level subject
    if ← isRunning then runChoice level tested subject arms
  | .define name body =>
    modify fun state => { state with
      functions := Entries.insert name body state.functions
      status := 0 }
  | .background body => do
    let outer ← get
    set (outer.feeding 0 [])
    isolated level (level.run tested body)
    modify fun state => { state.withStreamsOf outer with
      background := some state.status
      status := 0 }
  | .isolated body => do
    isolated level (level.run tested body)
    endAfterFailure tested
  | .redirected (.isolated body) redirections => do
    isolated level do
      redirecting level redirections (level.run tested body)
    endAfterFailure tested
  | .redirected body redirections => redirecting level redirections (level.run tested body)

/-- Runs a command, unless an option says that commands are only read. -/
def runCommand (level : Level) (tested : Bool) (command : Command) : Session Unit := do
  unless (← get).has 'n' do runAnyway level tested command

/-- Runs a script to its end, with what it traps there. -/
def runScript (level : Level) (text : String) (state : State) : Outcome :=
  let action : Session Unit := do
    runText level false text
    unless (← get).stop matches some (.killed _) do runTrap level 0
  let ((), state) := action state
  let ending := match state.stop with
    | some (.killed signal) => .killed signal
    | some (.exited status) => .exited (status % 256)
    | _ => .exited (state.status % 256)
  ⟨ending, state.written.reverse, state.sources.headD [],
    { state.directory with current := .here }⟩

end SyntaxFold.Sandbox.Shell
