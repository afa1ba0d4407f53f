import SyntaxFold.Sandbox.Program

/-!
# The sandbox

A system to try commands in: the files are those of a `Directory` in memory, and the programs are a
shell, the usual utilities and scripts for them. It stands in for whatever machine the commands run
on, so that runs which start a program can be computed. The theory of the commands is about every
`System`, and none of it is about the sandbox.
-/

namespace SyntaxFold.Sandbox

/-- How commands see the end of a program. Nothing in the sandbox keeps the memory of a program. -/
def Ending.toProgramEnd : Ending → ProgramEnd
  | exited status => .exited status
  | killed signal => .killed signal false

/-- What commands know of a program that has come to its end. -/
def Shell.Outcome.toFinished (outcome : Shell.Outcome) : Finished :=
  ⟨outcome.ending.toProgramEnd, outcome.stream 1, outcome.stream 2⟩

/-- How much of its input a program can leave without anybody noticing. -/
def maxInputLeft : Nat := 65536

/-- Runs a program in a directory. What it writes to devices goes to its own streams, and a program
that leaves too much of its input breaks the stream on which it is sent. -/
def runProgram (program : String) (arguments : List String) (input : String) :
    Action Directory SystemFault Finished := do
  let before ← get
  match startProgram { before with printed := [] } program arguments (Bytes.ofString input) with
  | .error fault => throw fault.toSystemFault
  | .ok outcome =>
    set { outcome.directory with printed := before.printed }
    if maxInputLeft < outcome.input.length then throw FileFault.brokenPipe.toSystemFault
    return outcome.toFinished

/-- Puts a text into a file of the directory. -/
def writeText (path text : String) : Action Directory SystemFault Unit := do
  match (← get).write path text with
  | .ok directory => set directory
  | .error fault => throw fault.toSystemFault

instance : System Directory where
  readText directory path := (directory.read path).mapError FileFault.toSystemFault
  writeText := writeText
  runProgram := runProgram

end SyntaxFold.Sandbox
