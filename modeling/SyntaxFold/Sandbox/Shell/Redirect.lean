import SyntaxFold.Sandbox.Shell.Expansion

/-!
# Redirecting streams

Redirections are done one after the other, before the command that they belong to. The first one
that cannot be done is reported, and then the command is not run. Afterwards the streams lead where
they led before.
-/

namespace SyntaxFold.Sandbox.Shell

/-- Reports that a file could not be opened. What is missing has a name of its own. -/
def refuseFile (attempt path missing : String) (fault : FileFault) : Session Bool := do
  let reason := match fault with
    | .notFound | .notDirectory => missing
    | fault => fault.reason
  complain ("cannot " ++ attempt ++ " " ++ path ++ ": " ++ reason)
  return false

/-- Lets a stream lead somewhere. -/
def route (stream : Nat) (destination : Destination) : Session Unit :=
  modify fun state => { state with
    routes := Entries.insert stream destination state.routes
    feeds := Entries.remove stream state.feeds }

/-- Lets a stream lead nowhere, and not even that. -/
def close (stream : Nat) : Session Unit :=
  modify fun state => { state with
    routes := Entries.remove stream state.routes
    feeds := Entries.remove stream state.feeds }

/-- Lets a stream be the same as another one, and says whether there is another one. -/
def share (stream other : Nat) : Session Bool := do
  let state ← get
  match Entries.get? other state.routes, Entries.get? other state.feeds with
  | some destination, _ =>
    route stream destination
    return true
  | none, some source =>
    set { state with
      feeds := Entries.insert stream source state.feeds
      routes := Entries.remove stream state.routes }
    return true
  | none, none => return false

/-- Sends a stream to the file at a path, which is made or emptied unless it is added to. -/
def sendToFile (stream : Nat) (writing : Writing) (path : String) : Session Bool := do
  let refuse := refuseFile "create" path "Directory nonexistent"
  let state ← get
  match state.directory.locate path with
  | .error fault => refuse fault
  | .ok (.missing place) =>
    if path.endsWith "/" then refuse .isDirectory
    else
      set { state with directory := state.directory.put place (.file (.text "") false) }
      route stream (.file place)
      return true
  | .ok (.found place entry) =>
    match entry with
    | .file _ executable =>
      if state.has 'C' ∧ writing = .anew then
        complain ("cannot create " ++ path ++ ": File exists")
        return false
      else
        unless writing = .behind do
          set { state with directory := state.directory.put place (.file (.text "") executable) }
        route stream (.file place)
        return true
    | .folder => refuse .isDirectory
    | .device .null =>
      route stream .nowhere
      return true
    | .device .full =>
      route stream .full
      return true
    | .device (.stream number) =>
      if ← share stream number then return true else refuse .notFound
    | .program => refuse .permissionDenied
    | .closed fault => refuse fault

/-- Takes a stream from the file at a path. -/
def takeFromFile (stream : Nat) (path : String) : Session Bool := do
  let refuse := refuseFile "open" path "No such file"
  let state ← get
  match state.directory.entry path with
  | .error fault => refuse fault
  | .ok (.closed fault) => refuse fault
  | .ok (.device (.stream number)) =>
    if ← share stream number then return true else refuse .notFound
  | .ok entry =>
    let bytes := match entry with
      | .file content _ => content.bytes
      | _ => []
    set (state.feeding stream bytes)
    return true

/-- Lets a stream lead where another one does, or closes it. The other one is given by a digit. -/
def duplicate (stream : Nat) (target : String) : Session Bool := do
  match target.toList with
  | ['-'] =>
    close stream
    return true
  | [digit] =>
    if digit.isDigit then
      let number := digit.toNat - 48
      if number = stream then return true
      else if ← share stream number then return true
      else
        complain (number.repr ++ ": Bad file descriptor")
        return false
    else
      abandon 2 "Syntax error: Bad fd number"
      return false
  | _ =>
    abandon 2 "Syntax error: Bad fd number"
    return false

/-- Does a redirection, and says whether it was possible. -/
def redirect (level : Level) : Redirection → Session Bool
  | .toFile stream writing target => do
    let path ← expandText level target
    if ← isRunning then sendToFile stream writing path.toStringLossy else return false
  | .fromFile stream target => do
    let path ← expandText level target
    if ← isRunning then takeFromFile stream path.toStringLossy else return false
  | .fromText stream text => do
    let text ← expandText level text
    modify fun state => state.feeding stream text
    isRunning
  | .duplicate stream target => do
    let target ← expandText level target
    if ← isRunning then duplicate stream target.toStringLossy else return false

/-- Does redirections, as far as they are possible, and says whether they all were. -/
def redirectAll (level : Level) (redirections : List Redirection) : Session Bool := do
  let mut possible := true
  for redirection in redirections do
    if possible then possible ← redirect level redirection
  return possible

/-- Does something with redirected streams, if the redirections are possible. -/
def redirecting (level : Level) (redirections : List Redirection) (action : Session Unit) :
    Session Unit := do
  let outer ← get
  if ← redirectAll level redirections then action else setStatus 2
  modify fun state => state.withStreamsOf outer

end SyntaxFold.Sandbox.Shell
