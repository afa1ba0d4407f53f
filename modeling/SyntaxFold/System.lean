import SyntaxFold.Text.Bytes

/-!
# Systems

Commands read files, write files and start programs. What a file holds and what a program does is
decided outside the library, so it is a parameter: a `System` over a type of states answers each of
these requests, and everything that depends on the answers is written and proved for every system.
-/

namespace SyntaxFold

/-- Why a system did not do what it was asked to do. -/
structure SystemFault where
  /-- What the fault is called. -/
  reason : String
  /-- The number that the system has for the fault. -/
  number? : Option Nat
  deriving DecidableEq, Repr

/-- The text of a fault, with its number where it has one. -/
def SystemFault.message (fault : SystemFault) : String :=
  match fault.number? with
  | some number => fault.reason ++ " (os error " ++ number.repr ++ ")"
  | none => fault.reason

/-- The names of the signals, without their first letters, in the order of their numbers. -/
def signalNames : List (Nat × String) :=
  [(1, "HUP"), (2, "INT"), (3, "QUIT"), (4, "ILL"), (5, "TRAP"), (6, "ABRT"), (7, "BUS"),
    (8, "FPE"), (9, "KILL"), (10, "USR1"), (11, "SEGV"), (12, "USR2"), (13, "PIPE"), (14, "ALRM"),
    (15, "TERM"), (16, "STKFLT"), (17, "CHLD"), (18, "CONT"), (19, "STOP"), (20, "TSTP"),
    (21, "TTIN"), (22, "TTOU"), (23, "URG"), (24, "XCPU"), (25, "XFSZ"), (26, "VTALRM"),
    (27, "PROF"), (28, "WINCH"), (29, "IO"), (30, "PWR"), (31, "SYS")]

/-- The name of a signal that has one. -/
def signalName? (number : Nat) : Option String :=
  (signalNames.find? (·.1 == number)).map Prod.snd

/-- How a program came to its end. -/
inductive ProgramEnd where
  | exited (status : Nat)
  /-- A signal ended the program, and its memory may have been kept in a file. -/
  | killed (signal : Nat) (dumped : Bool)
  deriving DecidableEq, Repr

/-- How the end of a program is described. -/
def ProgramEnd.description : ProgramEnd → String
  | exited status => "exit status: " ++ status.repr
  | killed signal dumped =>
    let name := match signalName? signal with
      | some name => " (SIG" ++ name ++ ")"
      | none => ""
    "signal: " ++ signal.repr ++ name ++ if dumped then " (core dumped)" else ""

/-- What is known of a program that has come to its end. -/
structure Finished where
  ending : ProgramEnd
  output : Bytes
  errors : Bytes
  deriving DecidableEq, Repr

/-- What is done in a system with states `σ`. It may end in an error, and even then the state may
have changed. -/
abbrev Action (σ ε α : Type) : Type := ExceptT ε (StateM σ) α

/-- The files and the programs that commands have to do with. Reading changes nothing; writing a
file and running a program may change whatever there is. -/
class System (σ : Type) where
  /-- The text of the file at a path. -/
  readText (state : σ) (path : String) : Except SystemFault String
  /-- Puts a text into the file at a path. -/
  writeText (path text : String) : Action σ SystemFault Unit
  /-- Starts a program, sends it a text as its input and waits for its end. The fault is one of
  starting the program or of talking to it, whatever the program did before. -/
  runProgram (program : String) (arguments : List String) (input : String) :
    Action σ SystemFault Finished

end SyntaxFold
