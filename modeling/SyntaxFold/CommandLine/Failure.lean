import SyntaxFold.TreeParser
import SyntaxFold.Value.Data

/-!
# Failures of commands

A command fails because of a file, because of what a file holds, or because of an error of the
reduction. `Failure.report` is what the user reads: the problem and, below it, its cause.
-/

namespace SyntaxFold.CommandLine

/-- Why a command failed. -/
inductive Failure where
  | unreadable (path : String) (fault : SystemFault)
  | unwritable (path : String) (fault : SystemFault)
  | notJson (path : String)
  | notNormalized (path : String) (error : FoldError)
  | notReduced (className property : String) (error : FoldError)
  | noClass (path : String)
  /-- An error that says everything by itself. -/
  | fold (error : FoldError)
  | holdsFunction (error : FunctionInData)
  | parser (error : ParserError)

namespace Failure

/-- What could not be done. -/
def problem : Failure → String
  | unreadable path _ => "failed to read " ++ path
  | unwritable path _ => "failed to write " ++ path
  | notJson path => path ++ " is not valid JSON"
  | notNormalized path _ => "failed to normalize " ++ path
  | notReduced className property _ => "failed to reduce " ++ className ++ "." ++ property
  | noClass path => path ++ " declares no class"
  | fold error => error.message
  | holdsFunction error => error.message
  | parser error => error.message

/-- Why it could not be done, unless the problem says so. -/
def cause? : Failure → Option String
  | unreadable _ fault | unwritable _ fault | parser (.spawn _ fault) => some fault.message
  | notNormalized _ error | notReduced _ _ error => some error.message
  | _ => none

/-- The report of a failure. The lines of the cause are indented. -/
def report (failure : Failure) : String :=
  let cause := match failure.cause? with
    | some cause => "\nCaused by:\n    " ++ "\n    ".intercalate (cause.splitOn "\n") ++ "\n"
    | none => ""
  "Error: " ++ failure.problem ++ "\n" ++ cause

end Failure

end SyntaxFold.CommandLine
