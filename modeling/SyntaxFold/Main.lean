import SyntaxFold.CommandLine.Run

/-!
# Command line

Loads the files that a command names, runs the command on them, and then does what the run says:
writes the files that changed, prints, and ends with the exit code.
-/

namespace SyntaxFold.CommandLine

open Sandbox

/-- The file fault behind a system error. -/
def faultOf : IO.Error → FileFault
  | .permissionDenied .. => .permissionDenied
  | .inappropriateType _ code _ => if code = 20 then .notDirectory else .isDirectory
  | .resourceExhausted .. => .noSpace
  | .invalidArgument .. => .nameTooLong
  | .userError _ => .notText
  | _ => .notFound

/-- What is at a path, if anything is. A file that names its interpreter may be run. -/
def load? (path : String) : IO (Option Entry) := do
  try
    let bytes := (← IO.FS.readBinFile path).toList
    return some (.file (.ofBytes bytes) (bytes.take 2 == [35, 33]))
  catch error =>
    match faultOf error with
    | .isDirectory => return some .folder
    | .notFound | .notDirectory | .nameTooLong => return none
    | fault => return some (.closed fault)

/-- The places that a path leads through, with the paths to them. -/
def placesAlong (depth : Nat) (path : Path) : List (String × Place) :=
  let (start, first) : Place × String := if path.fromRoot then (⟨depth, []⟩, "/") else (.here, "")
  let (_, _, passed) := path.parts.foldl (fun (place, text, passed) part =>
    let place :=
      if part = "." then place
      else if part = ".." then place.parent depth
      else place.child part
    (place, text ++ part ++ "/", passed ++ [(text ++ part, place)])) (start, first, [])
  passed

/-- Loads what the paths of a command lead through. -/
def loadAll (command : Command) : IO Directory := do
  let depth := (Path.ofText (← IO.currentDir).toString).parts.length
  let mut directory : Directory := { Directory.ofFiles [] with depth }
  for path in command.inputs ++ command.output?.toList do
    for (text, place) in placesAlong depth (.ofText path) do
      if (directory.entryAt? place).isNone then
        if let some entry ← load? text then directory := directory.put place entry
  return directory

/-- Makes a place hold what it is said to hold. -/
def storeEntry (path : String) : Entry → IO Unit
  | .file content _ => IO.FS.writeBinFile path ⟨content.bytes.toArray⟩
  | .folder => IO.FS.createDirAll path
  | _ => return

/-- Stores what differs from what was loaded. -/
def store (before after : Directory) : IO Unit := do
  for (place, entry) in after.entries do
    if before.entryAt? place ≠ some entry then storeEntry (after.pathTo place) entry
  for (place, entry) in before.entries do
    if (after.entryAt? place).isNone ∧ (entry matches .file ..) then
      IO.FS.removeFile (after.pathTo place)

/-- Does what a run says. -/
def finish (before : Directory) (ending : Ending Directory) : IO UInt32 := do
  store before ending.directory
  IO.print ending.output
  IO.eprint ending.errors
  return ending.exitCode.toUInt32

end SyntaxFold.CommandLine

open SyntaxFold.CommandLine SyntaxFold.Sandbox in
/-- Runs the command line on the words behind the program's name. -/
def main (words : List String) : IO UInt32 := do
  let directory ← match Command.ofArguments? words with
    | some command => loadAll command
    | none => pure (.ofFiles [])
  let ending := run directory words
  try
    finish directory ending
  catch error =>
    let path := ((Command.ofArguments? words).bind Command.output?).getD ""
    IO.eprint (Failure.unwritable path (faultOf error).toSystemFault).report
    return 1
