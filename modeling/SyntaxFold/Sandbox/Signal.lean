import SyntaxFold.System

/-!
# Signals

The signals as the shell knows them: how they are listed, which of them end a program, and what is
said about that.
-/

namespace SyntaxFold.Sandbox

/-- The number of the last signal. -/
def lastSignal : Nat := 64

/-- The number of the first signal that has no meaning of its own. -/
def firstOwnSignal : Nat := 34

/-- The name by which a signal is listed. The signals that have no meaning of their own are counted
from the nearer end of their range; a few are given by number alone. -/
def listedSignal (number : Nat) : String :=
  let middle := (firstOwnSignal + lastSignal) / 2
  if number = 0 then "EXIT"
  else if firstOwnSignal ≤ number ∧ number ≤ middle then
    let offset := number - firstOwnSignal
    "RTMIN" ++ (if offset = 0 then "" else "+" ++ offset.repr)
  else if middle < number ∧ number ≤ lastSignal then
    let offset := lastSignal - number
    "RTMAX" ++ (if offset = 0 then "" else "-" ++ offset.repr)
  else if number = 16 then number.repr
  else (signalName? number).getD number.repr

/-- The number of the signal that is listed under the given name, in letters of any case. -/
def signalNumber? (name : String) : Option Nat :=
  let name := String.ofList (name.toList.map Char.toUpper)
  (List.range (lastSignal + 1)).find? fun number => number ≠ 0 ∧ listedSignal number = name

/-- Whether a signal ends a program that does nothing about it. -/
def signalEnds (number : Nat) : Bool :=
  !([0, 17, 18, 19, 20, 21, 22, 23, 28].contains number)

/-- What the shell says when a signal has ended a program. It says nothing about signals that users
send on purpose. -/
def signalText? (number : Nat) : Option String :=
  let texts := [(1, "Hangup"), (3, "Quit"), (4, "Illegal instruction"),
    (5, "Trace/breakpoint trap"), (6, "Aborted"), (7, "Bus error"), (8, "Floating point exception"),
    (9, "Killed"), (10, "User defined signal 1"), (11, "Segmentation fault"),
    (12, "User defined signal 2"), (14, "Alarm clock"), (15, "Terminated"), (16, "Stack fault"),
    (24, "CPU time limit exceeded"), (25, "File size limit exceeded"),
    (26, "Virtual timer expired"), (27, "Profiling timer expired"), (29, "I/O possible"),
    (30, "Power failure"), (31, "Bad system call")]
  if firstOwnSignal ≤ number ∧ number ≤ lastSignal then
    some ("Real-time signal " ++ (number - firstOwnSignal).repr)
  else (texts.find? (·.1 == number)).map Prod.snd

/-- How a program came to its end. -/
inductive Ending where
  | exited (status : Nat)
  | killed (signal : Nat)
  deriving DecidableEq, Repr

/-- The status by which another program sees the end. -/
def Ending.status : Ending → Nat
  | exited status => status
  | killed signal => 128 + signal

end SyntaxFold.Sandbox
