import SyntaxFold.Sandbox.Utility.EditScript

/-!
# Editing lines

Running an edit script: its commands go over the lines one after the other. They work on a line that
can grow by the lines behind it, and on a second text that is kept from line to line.
-/

namespace SyntaxFold.Sandbox.Utility

/-- The text that a template gives for a match. -/
def filled (template : List TemplatePart) (found : Match) : Bytes :=
  template.flatMap fun
    | .byte value => [value]
    | .group 0 => found.found
    | .group number => (Entries.get? number found.groups).getD []

/-- The state of an edit. -/
structure Editing where
  /-- The line that is edited, and whether it was ended. -/
  line : Bytes
  ended : Bool
  held : Bytes
  heldEnded : Bool
  number : Nat
  left : List (Bytes × Bool)
  /-- What was printed, and whether a line end is still owed to it. -/
  output : Bytes
  owesEnd : Bool
  /-- The texts that are printed behind the line. -/
  appended : List Bytes
  /-- The number of the command that is next. -/
  place : Nat
  /-- The commands whose ranges have begun, with the lines where they began. -/
  ranges : List (Nat × Nat)
  replaced : Bool
  lastRegex : Option Regex
  /-- Whether a command asked for the last expression when there was none. -/
  lacksRegex : Bool
  status : Option Nat

/-- What came of looking whether a line is meant. -/
structure LineTest where
  holds : Bool
  /-- The expression that was used. -/
  regex : Option Regex
  lacksRegex : Bool

/-- The result of a test without an expression. -/
def LineTest.plain (holds : Bool) : LineTest := ⟨holds, none, false⟩

namespace Editing

/-- Prints a text, with a line end behind it unless the line had none. -/
def print (editing : Editing) (text : Bytes) (ended : Bool) : Editing :=
  let owed : Bytes := if editing.owesEnd then [10] else []
  { editing with
    output := editing.output ++ owed ++ text ++ (if ended then [10] else [])
    owesEnd := !ended }

/-- Prints a text as it is. -/
def printText (editing : Editing) (text : Bytes) : Editing :=
  let owed : Bytes := if editing.owesEnd then [10] else []
  { editing with output := editing.output ++ owed ++ text, owesEnd := false }

/-- Prints the line. -/
def printLine (editing : Editing) : Editing := editing.print editing.line editing.ended

/-- Prints what comes behind the line. -/
def flush (editing : Editing) : Editing :=
  { editing.appended.foldl printText editing with appended := [] }

/-- Ends the work on a line: it is printed unless the editor is quiet. -/
def close (quiet : Bool) (editing : Editing) : Editing :=
  (if quiet then editing else editing.printLine).flush

/-- Takes the next line in the place of the line. -/
def advance (editing : Editing) : Editing :=
  match editing.left with
  | [] => { editing with status := some 0 }
  | (line, ended) :: left =>
    { editing with line, ended, left, number := editing.number + 1 }

/-- Goes on with the next line and the first command. -/
def restart (editing : Editing) : Editing :=
  { editing.advance with place := 0, replaced := false }

/-- Whether an address is that of the line. -/
def isAt (editing : Editing) : Address → LineTest
  | .line number => .plain (editing.number == number)
  | .final => .plain editing.left.isEmpty
  | .every first step =>
    .plain (if step = 0 then editing.number == first
      else decide (first ≤ editing.number) && (editing.number - first) % step == 0)
  | .matching regex ignoreCase =>
    match regex.or editing.lastRegex with
    | some regex => ⟨(regex.findIn ignoreCase editing.line).isSome, some regex, false⟩
    | none => ⟨false, none, true⟩
  | .after _ => .plain false

/-- Ends the work because there is no last expression. -/
def lackRegex (editing : Editing) : Editing :=
  { editing with lacksRegex := true, status := some 1 }

/-- Remembers the expression that a test used. -/
def remember (editing : Editing) (test : LineTest) : Editing :=
  let editing := { editing with lastRegex := test.regex.or editing.lastRegex }
  if test.lacksRegex then editing.lackRegex else editing

/-- Opens the range of a command, or closes it. -/
def setRange (editing : Editing) (place : Nat) (start : Option Nat) : Editing :=
  { editing with
    ranges := match start with
      | some start => Entries.insert place start editing.ranges
      | none => Entries.remove place editing.ranges }

/-- Whether a range that began at a line ends with this one. -/
def endsRange (editing : Editing) (start : Nat) (last : Address) : LineTest :=
  match last with
  | .line number => .plain (number ≤ editing.number)
  | .after count => .plain (start + count ≤ editing.number)
  | last => editing.isAt last

/-- Whether a command is for the line. -/
def covers (editing : Editing) (command : EditCommand) : Bool × Editing :=
  match command.first, command.last with
  | none, _ => (true, editing)
  | some first, none =>
    let test := editing.isAt first
    (test.holds, editing.remember test)
  | some first, some last =>
    let start? := match Entries.get? editing.place editing.ranges, first with
      | some start, _ => some start
      | none, .line 0 => if editing.number = 1 then some 0 else none
      | none, _ => none
    match start? with
    | some start =>
      let passed := match last with
        | .line number => decide (number < editing.number)
        | _ => false
      let test := editing.endsRange start last
      let next :=
        (editing.remember test).setRange editing.place (if test.holds then none else start)
      if passed then
        let test := editing.isAt first
        (test.holds, (next.remember test).setRange editing.place none)
      else (true, next)
    | none =>
      let test := editing.isAt first
      let editing := editing.remember test
      if test.holds then
        let alone := match last with
          | .line number => decide (number ≤ editing.number)
          | .after 0 => true
          | _ => false
        (true, editing.setRange editing.place (if alone then none else some editing.number))
      else (false, editing)

/-- The number of the command behind the closing one that belongs to an opening one. -/
def behindBlock (commands : List EditCommand) (place : Nat) : Nat :=
  let rec go (depth place : Nat) : List EditCommand → Nat
    | [] => place
    | command :: rest =>
      match command.edit with
      | .opening => go (depth + 1) (place + 1) rest
      | .closing => if depth ≤ 1 then place + 1 else go (depth - 1) (place + 1) rest
      | _ => go depth (place + 1) rest
  go 0 place (commands.drop place)

/-- The number of the command at a label, or of the end. -/
def placeOf (commands : List EditCommand) (target : Bytes) : Nat :=
  let index? := commands.findIdx? fun command =>
    match command.edit with
    | .label name => name == target
    | _ => false
  if target.isEmpty then commands.length else index?.getD commands.length

/-- Carries out a replacement. -/
def replace (editing : Editing) (replacement : Replacement) : Editing :=
  match replacement.regex.or editing.lastRegex with
  | none => editing.lackRegex
  | some regex =>
    let editing := { editing with lastRegex := some regex }
    let (found, rest) := regex.findAll replacement.ignoreCase editing.line
    if found.length < replacement.first then editing
    else
      let pieces := (numbered found).flatMap fun (found, number) =>
        let replaces :=
          number == replacement.first || (replacement.everywhere && replacement.first < number)
        found.before ++ (if replaces then filled replacement.template found else found.found)
      let editing := { editing with line := pieces ++ rest, replaced := true }
      if replacement.prints then editing.printLine else editing

/-- Ends the work on all lines. -/
def quit (editing : Editing) (status : Nat) : Editing := { editing with status := some status }

/-- What a text has behind its first line end. -/
def behindFirst (text : Bytes) : Bytes := (text.dropWhile (· != 10)).drop 1

/-- Carries out what a command does to the line. -/
def apply (quiet : Bool) (commands : List EditCommand) (editing : Editing)
    (command : EditCommand) : Editing :=
  match command.edit with
  | .replace replacement => editing.replace replacement
  | .mapBytes source target =>
    { editing with line := editing.line.map (mappedByte source target) }
  | .delete => editing.flush.restart
  | .deleteFirst =>
    if editing.line.contains 10 then
      { editing.flush with line := behindFirst editing.line, place := 0 }
    else editing.flush.restart
  | .print => editing.printLine
  | .printFirst =>
    let first := editing.line.takeWhile (· != 10)
    editing.print first (editing.ended || editing.line.contains 10)
  | .printNumber => editing.print (Bytes.ofString editing.number.repr) true
  | .next =>
    if editing.left.isEmpty then (editing.close quiet).quit 0
    else (editing.close quiet).advance
  | .appendNext =>
    match editing.left with
    | [] => (editing.close quiet).quit 0
    | _ =>
      let next := editing.flush.advance
      { next with line := editing.line ++ [10] ++ next.line }
  | .quit status prints => (if prints then editing.close quiet else editing).quit status
  | .append text => { editing with appended := editing.appended ++ [text] }
  | .insert text => editing.printText text
  | .change text =>
    let goesOn := command.last.isSome && !command.negated &&
      (Entries.get? (editing.place - 1) editing.ranges).isSome
    (if goesOn then editing else editing.printText text).flush.restart
  | .hold adds =>
    { editing with
      held := if adds then editing.held ++ [10] ++ editing.line else editing.line
      heldEnded := editing.ended }
  | .get adds =>
    { editing with
      line := if adds then editing.line ++ [10] ++ editing.held else editing.held
      ended := editing.heldEnded }
  | .exchange =>
    { editing with
      line := editing.held
      ended := editing.heldEnded
      held := editing.line
      heldEnded := editing.ended }
  | .branch target whenReplaced =>
    let goes := whenReplaced.all (· == editing.replaced)
    let replaced := editing.replaced && whenReplaced.isNone
    if goes then { editing with place := placeOf commands target, replaced }
    else { editing with replaced }
  | .label _ | .opening | .closing | .nothing => editing

/-- Carries out the next command, or goes on with the next line behind the last command. -/
def step (quiet : Bool) (commands : List EditCommand) (editing : Editing) : Editing :=
  match commands[editing.place]? with
  | none => (editing.close quiet).restart
  | some command =>
    let (covered, editing) := editing.covers command
    let following := { editing with place := editing.place + 1 }
    if editing.lacksRegex then editing
    else if covered != command.negated then following.apply quiet commands command
    else match command.edit with
      | .opening => { editing with place := behindBlock commands editing.place }
      | _ => following

/-- Carries out commands to the end. -/
def run (quiet : Bool) (commands : List EditCommand) : (fuel : Nat) → Editing → Editing
  | 0, editing => editing
  | fuel + 1, editing =>
    if editing.status.isSome then editing else run quiet commands fuel (editing.step quiet commands)

/-- The state before the first line. -/
def start (lines : List (Bytes × Bool)) : Editing where
  line := []
  ended := true
  held := []
  heldEnded := true
  number := 0
  left := lines
  output := []
  owesEnd := false
  appended := []
  place := 0
  ranges := []
  replaced := false
  lastRegex := none
  lacksRegex := false
  status := none

end Editing

/-- How many commands are carried out at most. -/
def maxEdits : Nat := 10000000

/-- Edits a text. -/
def edited (quiet : Bool) (commands : List EditCommand) (text : Bytes) : Editing :=
  (Editing.start (linesOf text.length text)).restart.run quiet commands maxEdits

/-- The complaint about an expression that was to be used again when there was none. -/
def Editing.complaint (request : Request) (editing : Editing) : List (Nat × Bytes) :=
  if editing.lacksRegex then
    [(2, request.message "-e expression #1, char 0: no previous regular expression")]
  else []

/-- Edits files where they are. -/
def editInPlace (request : Request) (quiet : Bool) (commands : List EditCommand)
    (operands : List Bytes) : Effect :=
  operands.foldl (fun effect (operand : Bytes) =>
    let path := operand.toStringLossy
    match effect.directory.content path with
    | .error fault =>
      let message := request.message ("can't read " ++ path ++ ": " ++ fault.reason)
      { effect with written := effect.written ++ [(2, message)], status := 2 }
    | .ok content =>
      let editing := edited quiet commands content.bytes
      let written := effect.written ++ editing.complaint request
      let status := max effect.status (editing.status.getD 0)
      if editing.lacksRegex then { effect with written, status }
      else match effect.directory.writeContent path (.ofBytes editing.output) with
        | .ok directory => { effect with directory, status }
        | .error _ => effect) (request.ending 0)

/-- The options of the utility that edits. -/
def sedOptions : List OptionRule :=
  [.plain 'n' "quiet", .valued 'e' "expression", .valued 'f' "file",
    .plain 'E' "regexp-extended", .plain 'r' "regexp-extended", ⟨some 'i', "in-place", .optional⟩,
    .plain 's' "separate", .plain 'u' "unbuffered", ⟨none, "posix", .none⟩]

/-- The script that arguments give, if they do, and the operands that are left. -/
def givenScript? (request : Request) (given : Given) : Option (Bytes × List Bytes) :=
  let texts := given.options.filterMap fun (name, value) =>
    match name with
    | "expression" => some value
    | "file" =>
      let content := ((request.directory.content (Bytes.toStringLossy value)).toOption.map
        Content.bytes).getD []
      some (if content.getLast? = some 10 then content.dropLast else content)
    | _ => none
  match texts, given.operands with
  | [], [] => none
  | [], script :: operands => some (script, operands)
  | texts, operands => some (List.intercalate [10] texts, operands)

/-- Says how to edit. -/
def sedUsage (request : Request) : Effect :=
  let usage := "Usage: sed [OPTION]... \x7bscript-only-if-no-other-script\x7d [input-file]...\n\n"
  { request.ending 1 with written := [(2, Bytes.ofString usage)] }

/-- Edits the lines of what the operands name, one behind the other, and prints them. -/
def editSources (request : Request) (quiet : Bool) (commands : List EditCommand)
    (operands : List Bytes) : Effect :=
  let sources := request.sources operands
  let errors := sources.found.filterMap fun (name, found) =>
    match found with
    | .ok _ => none
    | .error fault => some (2, request.message ("can't read " ++ name ++ ": " ++ fault.reason))
  let text := sources.found.flatMap fun (_, found) => found.toOption.getD []
  let editing := edited quiet commands text
  let status := if errors.isEmpty ∨ editing.lacksRegex then editing.status.getD 0 else 2
  ⟨errors ++ editing.complaint request ++ [(1, editing.output)], status, sources.input,
    request.directory⟩

/-- Edits lines by a script, and prints them or puts them back into their files. -/
def sed (request : Request) : Effect :=
  request.taking sedOptions fun given =>
    match givenScript? request given with
    | none => sedUsage request
    | some (script, operands) =>
      match readEditScript (given.has "regexp-extended") script with
      | .error (message, status) => request.failing status message
      | .ok commands =>
        let quiet :=
          given.has "quiet" || (Bytes.ofString "#n\n").isPrefixOf (script ++ [10])
        if given.has "in-place" then editInPlace request quiet commands operands
        else editSources request quiet commands operands

end SyntaxFold.Sandbox.Utility
