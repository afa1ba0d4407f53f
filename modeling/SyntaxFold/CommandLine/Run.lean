import SyntaxFold.CommandLine.Execution
import SyntaxFold.Sandbox.System

/-!
# The command line in a directory

`execute` runs the command line in any system. Here the system is a `Directory` in memory.
-/

namespace SyntaxFold.CommandLine

/-- The directory that a run leaves behind. -/
def Ending.directory (ending : Ending Directory) : Directory := ending.state

/-- Runs the command line in a directory. What it wrote to the files that stand for its own streams
comes before what it prints. -/
def run (directory : Directory) (words : List String) : Ending Directory :=
  let ending := execute directory words
  { ending with
    output := (ending.directory.printedTo 1).toStringLossy ++ ending.output
    errors := (ending.directory.printedTo 2).toStringLossy ++ ending.errors }

end SyntaxFold.CommandLine
