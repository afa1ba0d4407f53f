import SyntaxFold.Sandbox.Interpreter
import SyntaxFold.Sandbox.Launcher
import SyntaxFold.Sandbox.Shell.Run
import SyntaxFold.Sandbox.Utility.Editing
import SyntaxFold.Sandbox.Utility.Searching
import SyntaxFold.Sandbox.Utility.Sequence
import SyntaxFold.Sandbox.Utility.Sorting

/-!
# Programs

Starting a program by name. The shell and its utilities are always there, by their bare names and in
the directories of system programs. Any other name is the path of a script, which is run by the
interpreter that its first line names. `levelAt` ties the knot between commands and the programs
that they start, up to a depth.
-/

namespace SyntaxFold.Sandbox

/-- The system's utilities by name. -/
def utility? : String → Option (Utility.Request → Utility.Effect)
  | "[" => some Utility.plainBracketTest
  | "basename" => some Utility.basename
  | "cat" => some Utility.cat
  | "chmod" => some Utility.chmod
  | "cp" => some Utility.cp
  | "cut" => some Utility.cut
  | "dirname" => some Utility.dirname
  | "echo" => some Utility.plainEcho
  | "expr" => some Utility.expr
  | "false" => some fun request => request.ending 1
  | "grep" => some Utility.grep
  | "head" => some Utility.head
  | "ls" => some Utility.ls
  | "mkdir" => some Utility.mkdir
  | "mv" => some Utility.mv
  | "printf" => some Utility.plainPrintf
  | "rev" => some Utility.rev
  | "rm" => some Utility.rm
  | "rmdir" => some Utility.rmdir
  | "sed" => some Utility.sed
  | "seq" => some Utility.seq
  | "sleep" => some Utility.sleep
  | "sort" => some Utility.sort
  | "tac" => some Utility.tac
  | "tail" => some Utility.tail
  | "tee" => some Utility.tee
  | "test" => some Utility.test
  | "touch" => some Utility.touch
  | "tr" => some Utility.tr
  | "true" => some fun request => request.ending 0
  | "uniq" => some Utility.uniq
  | "wc" => some Utility.wc
  | _ => none

/-- Runs a utility as a program of its own. What it wrote to devices goes to their streams. -/
def startUtility (utility : Utility.Request → Utility.Effect) (call : Shell.Call) :
    Shell.Outcome :=
  let effect := utility
    { announce := call.name ++ Bytes.ofString ": "
      arguments := call.arguments
      input := call.input
      directory := call.directory }
  { ending := .exited (effect.status % 256)
    written := effect.written ++ effect.directory.printed
    input := effect.input
    directory := { effect.directory with printed := [] } }

/-- Ends the shell before it has run anything. -/
def refuseShell (call : Shell.Call) (message : String) : Shell.Outcome :=
  ⟨.exited 2, [(2, call.name ++ Bytes.ofString (": 0: " ++ message ++ "\n"))], call.input,
    call.directory⟩

/-- Runs the shell on a script: on a text among its arguments, a file, or its input. -/
def startShell (level : Shell.Level) (call : Shell.Call) : Shell.Outcome :=
  match Shell.readOptions true (.start []) 0 true call.arguments with
  | .error message => refuseShell call message
  | .ok reading =>
    let run (text : String) (name : Bytes) (parameters : List Bytes) (input : Bytes) :
        Shell.Outcome :=
      let state := Shell.State.start name parameters input call.directory call.environment
        call.process
      let outcome := Shell.runScript level text
        { state with options := reading.options.filter (· != 'm') }
      if reading.options.contains 'm' || reading.options.contains 'i' then
        let complaint := ": 0: " ++ Shell.noTerminal ++ "\n"
        { outcome with written := (2, name ++ Bytes.ofString complaint) :: outcome.written }
      else outcome
    match reading.runsText, reading.rest with
    | true, [] => refuseShell call "-c requires an argument"
    | true, [text] => run text.toStringLossy call.name [] call.input
    | true, text :: name :: parameters => run text.toStringLossy name parameters call.input
    | false, rest =>
      match reading.options.contains 's', rest with
      | false, path :: parameters =>
        let isInput :=
          call.directory.entry path.toStringLossy matches .ok (.device (.stream 0))
        let found :=
          if isInput then .ok (.ofBytes call.input)
          else call.directory.content path.toStringLossy
        match found with
        | .ok content =>
          run (Bytes.toStringLossy content.bytes) path parameters
            (if isInput then [] else call.input)
        | .error .isDirectory => run "" path parameters call.input
        | .error fault =>
          let reason := match fault with
            | .notFound | .notDirectory => "No such file"
            | fault => fault.reason
          refuseShell call ("cannot open " ++ path.toStringLossy ++ ": " ++ reason)
      | _, parameters => run call.input.toStringLossy call.name parameters []

/-- How many bytes an argument of a program may have. -/
def maxArgumentLength : Nat := 131071

/-- Starts a program. -/
def startWith (level : Shell.Level) (call : Shell.Call) : Except FileFault Shell.Outcome := do
  if call.program.toList.contains '\x00' ∨ call.arguments.any (·.contains 0) then throw .holdsNul
  let ⟨program, name, arguments⟩ ←
    call.directory.launchNamed call.program call.name call.arguments
  if arguments.any (maxArgumentLength < ·.length) then throw .argumentTooLong
  let call := { call with program, name, arguments }
  if shellNames.contains program then return startShell level call
  else if program = "env" then Launcher.env level call
  else if program = "xargs" then return Launcher.xargs level call
  else match utility? program with
    | some utility => return startUtility utility call
    | none => throw .notFound

/-- The rules for commands that are nested up to a depth. Deeper ones do nothing. -/
def levelAt : (depth : Nat) → Shell.Level
  | 0 => ⟨fun _ _ => return, fun _ => return [], fun _ => .error .notFound⟩
  | depth + 1 =>
    let level := levelAt depth
    ⟨Shell.runCommand level, Shell.expandWord level, startWith level⟩

/-- How deeply commands may be nested. -/
def maxCommandDepth : Nat := 4096

/-- The number of the first process. -/
def firstProcess : Nat := 1000

/-- Runs the program that a name stands for, with arguments and input. -/
def startProgram (directory : Directory) (program : String) (arguments : List String)
    (input : Bytes) : Except FileFault Shell.Outcome :=
  (levelAt maxCommandDepth).start
    { program := program
      name := Bytes.ofString program
      arguments := arguments.map Bytes.ofString
      input := input
      environment := []
      directory := directory
      process := firstProcess }

end SyntaxFold.Sandbox
