import SyntaxFold.Sandbox.Shell.Expansion
import SyntaxFold.Sandbox.Utility.Arguments

/-!
# Launchers

The programs whose work is to start other programs: one starts a program in another environment, and
one makes arguments out of its input.
-/

namespace SyntaxFold.Sandbox.Launcher

open SyntaxFold.Sandbox.Shell (Call Level Outcome)

/-- Ends with a message. -/
def failing (call : Call) (status : Nat) (message : String) : Outcome :=
  ⟨.exited status, [(2, call.name ++ Bytes.ofString (": " ++ message ++ "\n"))], call.input,
    call.directory⟩

/-- Starts a program. A file that is no program is taken for a script of the shell. -/
def start (level : Level) (call : Call) : Except FileFault Outcome :=
  match level.start call with
  | .error .wrongFormat =>
    level.start { call with
      program := "/bin/sh"
      name := Bytes.ofString "/bin/sh"
      arguments := Bytes.ofString call.program :: call.arguments }
  | result => result

/-- A text that is told apart at blanks and quotes, under construction: the words, newest first, the
word that has begun, and the quote that is open. -/
structure Splitting where
  words : List Bytes
  begun : Option Bytes
  quote : Option UInt8
  escaped : Bool

/-- Ends the word that has begun. -/
def Splitting.close (splitting : Splitting) : Splitting :=
  match splitting.begun with
  | some word => { splitting with words := word :: splitting.words, begun := none }
  | none => splitting

/-- Takes in a byte. -/
def Splitting.step (splitting : Splitting) (byte : UInt8) : Splitting :=
  let longer := some (splitting.begun.getD [] ++ [byte])
  if splitting.escaped then { splitting with begun := longer, escaped := false }
  else match splitting.quote with
    | some quote =>
      if byte = quote then { splitting with quote := none }
      else { splitting with begun := longer }
    | none =>
      if byte = 92 then { splitting with escaped := true }
      else if byte = 34 ∨ byte = 39 then
        { splitting with quote := some byte, begun := some (splitting.begun.getD []) }
      else if byte = 32 ∨ byte = 9 ∨ byte = 10 then splitting.close
      else { splitting with begun := longer }

/-- The words of a text, and the quote that is left open. -/
def words (text : Bytes) : List Bytes × Option UInt8 :=
  let splitting := (text.foldl Splitting.step ⟨[], none, none, false⟩).close
  (splitting.words.reverse, splitting.quote)

/-- What the arguments say about the environment, and the program with its arguments. -/
structure Setting where
  environment : List (String × Bytes)
  command : List Bytes

/-- Sets a variable if the argument does. -/
def assignment? (argument : Bytes) : Option (String × Bytes) :=
  match argument.span (· != 61) with
  | (name, _ :: value) => some (Bytes.toStringLossy name, value)
  | (_, []) => none

/-- Reads the variables that come before a program. -/
def Setting.ofAssignments (environment : List (String × Bytes)) : List Bytes → Setting
  | [] => ⟨environment, []⟩
  | argument :: rest =>
    match assignment? argument with
    | some (name, value) => ofAssignments (Entries.insert name value environment) rest
    | none => ⟨environment, argument :: rest⟩

/-- What is wrong with options about the environment. -/
inductive SettingFault where
  | unknown (letter : Char)
  | noName
  | badName (name : Bytes)
  deriving DecidableEq, Repr

/-- The text of a fault, with a hint where it is about the form of the options. -/
def SettingFault.message (hint : String) : SettingFault → String
  | unknown letter => "invalid option -- '" ++ letter.toString ++ "'" ++ hint
  | noName => "option requires an argument -- 'u'" ++ hint
  | badName name => "cannot unset " ++ Utility.quotedText name ++ ": Invalid argument"

/-- Leaves a variable out. -/
def leaveOut (environment : List (String × Bytes)) (name : Bytes) :
    Except SettingFault (List (String × Bytes)) :=
  if name.isEmpty ∨ name.contains 61 then .error (.badName name)
  else .ok (Entries.remove name.toStringLossy environment)

/-- Reads options, and then the variables. The flag says that the name of a variable to leave out is
still to come. -/
def Setting.ofArguments (environment : List (String × Bytes)) (leavesOut : Bool) :
    List Bytes → Except SettingFault Setting
  | [] => if leavesOut then .error .noName else .ok ⟨environment, []⟩
  | argument :: rest =>
    if leavesOut then do ofArguments (← leaveOut environment argument) false rest
    else match argument with
      | [45] | [45, 105] => ofArguments [] false rest
      | [45, 45] => .ok (ofAssignments environment rest)
      | [45, 117] => ofArguments environment true rest
      | 45 :: 117 :: name => do ofArguments (← leaveOut environment name) false rest
      | 45 :: letter :: _ => .error (.unknown (Char.ofNat letter.toNat))
      | _ => .ok (ofAssignments environment (argument :: rest))

/-- The arguments, with one that is to be told apart replaced by its words. -/
def splitArguments : List Bytes → List Bytes
  | (45 :: 83 :: text) :: rest =>
    match text, rest with
    | [], text :: rest => (words text).1 ++ rest
    | text, rest => (words text).1 ++ rest
  | argument :: rest =>
    if argument.head? = some 45 then argument :: splitArguments rest else argument :: rest
  | [] => []

/-- Starts a program in an environment, or prints the environment. -/
def env (level : Level) (call : Call) : Except FileFault Outcome := do
  match Setting.ofArguments call.environment false (splitArguments call.arguments) with
  | .error fault =>
    let hint := "\nTry '" ++ call.name.toStringLossy ++ " --help' for more information."
    return failing call 125 (fault.message hint)
  | .ok ⟨environment, []⟩ =>
    let lines := environment.flatMap fun (name, value) =>
      Bytes.ofString (name ++ "=") ++ value ++ [10]
    return ⟨.exited 0, [(1, lines)], call.input, call.directory⟩
  | .ok ⟨environment, name :: arguments⟩ =>
    let program := name.toStringLossy
    match start level { call with program, name, arguments, environment } with
    | .ok outcome => return outcome
    | .error fault =>
      let isMissing := fault = .notFound
      let hint :=
        if isMissing ∧ program.toList.contains ' ' then
          "\n" ++ call.name.toStringLossy ++ ": use -[v]S to pass options in shebang lines"
        else ""
      let message := Utility.quotedText name ++ ": " ++ fault.reason ++ hint
      return failing call (if isMissing then 127 else 126) message

/-- How input becomes arguments. -/
structure Grouping where
  /-- The byte at which the input is told apart, in place of blanks and quotes. -/
  mark : Option UInt8
  /-- The text that a line of the input takes the place of. -/
  placeholder : Option Bytes
  /-- How many arguments, or lines, are given at once. -/
  size : Option Nat
  byLines : Bool

/-- A list in groups of a size. The fuel is the length of the list. -/
def groups {α : Type} (fuel size : Nat) (items : List α) : List (List α) :=
  match fuel, items with
  | 0, _ | _, [] => []
  | fuel + 1, items => items.take size :: groups fuel size (items.drop size)

/-- A text with every occurrence of another text replaced. The fuel is its length. -/
def replaced (fuel : Nat) (placeholder value text : Bytes) : Bytes :=
  match fuel, text with
  | 0, _ | _, [] => []
  | fuel + 1, byte :: rest =>
    if placeholder.isPrefixOf (byte :: rest) ∧ ¬ placeholder.isEmpty then
      value ++ replaced fuel placeholder value ((byte :: rest).drop placeholder.length)
    else byte :: replaced fuel placeholder value rest

/-- The pieces of the input between marks. A mark at the end begins no piece. -/
def pieces (mark : UInt8) (input : Bytes) : List Bytes :=
  let (done, last) := input.foldl (fun (done, piece) byte =>
    if byte = mark then (piece.reverse :: done, []) else (done, byte :: piece)) ([], [])
  (if last.isEmpty then done else last.reverse :: done).reverse

/-- The commands that are to be started, one behind the other. -/
def Grouping.commands (grouping : Grouping) (fixed : List Bytes) (input : Bytes) :
    List (List Bytes) :=
  let lines := (pieces 10 input).filter fun line => line.any (!isBlank ·)
  match grouping.placeholder with
  | some placeholder =>
    lines.map fun line =>
      let value := line.dropWhile isBlank
      fixed.map fun argument => replaced argument.length placeholder value argument
  | none =>
    let items := match grouping.mark with
      | some mark => (pieces mark input).map fun piece => [piece]
      | none =>
        if grouping.byLines then lines.map fun line => (words line).1
        else ((words input).1).map fun word => [word]
    match grouping.size with
    | some size => (groups items.length (max size 1) items).map (fixed ++ ·.flatten)
    | none => [fixed ++ items.flatten]
where
  /-- Whether a byte of a line is blank. -/
  isBlank (byte : UInt8) : Bool := byte == 32 || byte == 9

/-- Starts commands one after the other, without input. The status tells whether all succeeded. -/
def startAll (level : Level) (call : Call) (outcome : Outcome) : List (List Bytes) → Outcome
  | [] => outcome
  | [] :: commands => startAll level call outcome commands
  | (name :: arguments) :: commands =>
    let program := name.toStringLossy
    let report (status : Nat) (message : String) : Outcome :=
      let failed := failing call status message
      { outcome with ending := failed.ending, written := outcome.written ++ failed.written }
    let next : Call :=
      { call with program, name, arguments, input := [], directory := outcome.directory }
    match start level next with
    | .error fault =>
      report (if fault = .notFound then 127 else 126) (program ++ ": " ++ fault.reason)
    | .ok result =>
      let written := outcome.written ++ result.written
      match result.ending with
      | .exited 255 =>
        let failed := failing call 124 (program ++ ": exited with status 255; aborting")
        ⟨.exited 124, written ++ failed.written, outcome.input, result.directory⟩
      | .exited status =>
        let ending := if status = 0 then outcome.ending else .exited 123
        startAll level call ⟨ending, written, outcome.input, result.directory⟩ commands
      | .killed signal =>
        let failed :=
          failing call 125 (program ++ ": terminated by signal " ++ signal.repr)
        ⟨.exited 125, written ++ failed.written, outcome.input, result.directory⟩

/-- The options of the program that makes arguments out of its input. -/
def xargsOptions : List Utility.OptionRule :=
  [.plain '0' "null", .plain 'r' "no-run-if-empty", .plain 't' "verbose", .plain 'x' "exit",
    .valued 'I' "replace", .valued 'L' "max-lines", .valued 'd' "delimiter",
    .valued 'n' "max-args", .valued 'P' "max-procs", .valued 's' "max-chars"]

/-- Makes arguments out of the input and starts a program with them. -/
def startOnInput (level : Level) (call : Call) (given : Utility.Given) : Outcome :=
  let number? (name : String) : Option Nat :=
    (given.value? name).bind fun (value : Bytes) => value.toStringLossy.toNat?
  let grouping : Grouping :=
    { mark :=
        if given.has "null" then some 0
        else (given.value? "delimiter").bind fun value =>
          if value = [92, 110] then some 10 else value.head?
      placeholder := given.value? "replace"
      size := (number? "max-args").or (number? "max-lines")
      byLines := given.has "max-lines" }
  let fixed := if given.operands.isEmpty then [Bytes.ofString "echo"] else given.operands
  let commands := grouping.commands fixed call.input
  let isEmpty := !call.input.any fun byte => byte != 32 && byte != 9 && byte != 10
  let commands :=
    if isEmpty then
      if given.has "no-run-if-empty" ∨ grouping.placeholder.isSome then [] else [fixed]
    else commands
  let outcome : Outcome := ⟨.exited 0, [], [], call.directory⟩
  match grouping.mark, (words call.input).2 with
  | none, some quote =>
    let kind := if quote = 34 then "double" else "single"
    let message := "unmatched " ++ kind ++
      " quote; by default quotes are special to xargs unless you use the -0 option"
    { failing call 1 message with input := [] }
  | _, _ => startAll level call outcome commands

/-- Starts a program on arguments that the input gives. -/
def xargs (level : Level) (call : Call) : Outcome :=
  match Utility.Given.read xargsOptions false none call.arguments with
  | .ok given => startOnInput level call given
  | .error message =>
    failing call 1 (message ++ "\nTry '" ++ call.name.toStringLossy ++
      " --help' for more information.")

end SyntaxFold.Sandbox.Launcher
