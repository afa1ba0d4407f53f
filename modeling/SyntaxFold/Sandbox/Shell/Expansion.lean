import SyntaxFold.Sandbox.Shell.Arithmetic
import SyntaxFold.Sandbox.Shell.Pattern
import SyntaxFold.Sandbox.Shell.Reader
import SyntaxFold.Sandbox.Shell.State

/-!
# Expanding words

A word is expanded to fragments: first the value of every part is put in its place, then the
fragments are split into fields at the separators that were not quoted, and last a field that is a
pattern gives way to the names of the files that it matches. The rules are parametric in `Level`,
what lies one level further down: the commands inside a word, and the words inside its parts.
-/

namespace SyntaxFold.Sandbox.Shell

/-- A piece of an expanded word. -/
inductive Fragment where
  /-- Text, whether it was quoted, and whether separators in it separate fields. -/
  | text (bytes : Bytes) (quoted splits : Bool)
  /-- A boundary between two fields. -/
  | boundary
  /-- A list of no parameters, beside which an empty text makes no field. -/
  | absent

/-- What a program left behind: how it ended, what it wrote to which stream, oldest first, the
input that it did not take, and the files. -/
structure Outcome where
  ending : Ending
  written : List (Nat × Bytes)
  input : Bytes
  directory : Directory

/-- All that was written to a stream. -/
def Outcome.stream (outcome : Outcome) (number : Nat) : Bytes :=
  (outcome.written.filter (·.1 == number)).flatMap Prod.snd

/-- How a program is started. -/
structure Call where
  /-- The name or the path of the program. -/
  program : String
  /-- The name by which the program is told that it was called. -/
  name : Bytes
  arguments : List Bytes
  input : Bytes
  environment : List (String × Bytes)
  directory : Directory
  /-- The number of the process that it becomes. -/
  process : Nat

/-- What the rules for a command need of what is inside it. -/
structure Level where
  /-- Runs a command. The flag says whether its status is tested, so that a failure is no reason to
  end the script. -/
  run : (tested : Bool) → Command → Session Unit
  expand : Word → Session (List Fragment)
  start : Call → Except FileFault Outcome

namespace Fragment

/-- The bytes that separate fields: those that count as blank, and the others. -/
structure Separators where
  blanks : Bytes
  others : Bytes

/-- The separators of a script. -/
def Separators.ofState (state : State) : Separators :=
  let all := (Entries.get? "IFS" state.bindings).getD [32, 9, 10]
  let isBlank (byte : UInt8) : Bool := byte == 32 || byte == 9 || byte == 10
  ⟨all.filter isBlank, all.filter (!isBlank ·)⟩

/-- Fields under construction: those that are complete, newest first, the one that has begun, and
whether blanks follow the last complete one. -/
structure Fields where
  complete : List (List Cell)
  begun : Option (List Cell)
  behindBlank : Bool

/-- Ends the field that has begun. -/
def Fields.close (fields : Fields) (behindBlank : Bool) : Fields :=
  match fields.begun with
  | some field => ⟨field :: fields.complete, none, behindBlank⟩
  | none => { fields with behindBlank }

/-- Continues a field, or begins one. -/
def Fields.add (fields : Fields) (bytes : Bytes) (special : Bool) : Fields :=
  let cells := bytes.map fun byte => ⟨byte, special⟩
  { fields with begun := some (fields.begun.getD [] ++ cells), behindBlank := false }

/-- Takes in a byte at which fields are separated. A separator that is not blank also ends a field
that has not begun. -/
def Fields.split (separators : Separators) (fields : Fields) (byte : UInt8) : Fields :=
  if separators.blanks.contains byte then
    if fields.begun.isSome then fields.close true else fields
  else if separators.others.contains byte then
    if fields.begun.isSome ∨ fields.behindBlank then fields.close false
    else { fields with complete := [] :: fields.complete }
  else fields.add [byte] true

/-- Takes in a fragment. -/
def Fields.push (separators : Separators) (fields : Fields) : Fragment → Fields
  | boundary => fields.close false
  | absent => fields
  | text bytes quoted false =>
    if quoted || !bytes.isEmpty then fields.add bytes (!quoted) else fields
  | text bytes _ true => bytes.foldl (Fields.split separators) fields

/-- Whether a fragment adds nothing to a field. -/
def isBlank : Fragment → Bool
  | text bytes _ _ => bytes.isEmpty
  | boundary => false
  | absent => true

/-- Whether a fragment is a list of no parameters. -/
def isAbsent : Fragment → Bool
  | absent => true
  | _ => false

/-- The fields of an expanded word. -/
def fields (separators : Separators) (fragments : List Fragment) : List (List Cell) :=
  if fragments.any isAbsent ∧ fragments.all isBlank then []
  else
    ((fragments.foldl (Fields.push separators) ⟨[], none, false⟩).close false).complete.reverse

/-- The bytes of an expanded word that is not split. -/
def joined (fragments : List Fragment) : Bytes :=
  fragments.flatMap fun
    | text bytes _ _ => bytes
    | boundary => [32]
    | absent => []

/-- The pattern of an expanded word: only unquoted bytes are special. -/
def pattern (fragments : List Fragment) : List PatternPart :=
  patternOf (fragments.flatMap fun
    | text bytes quoted _ => bytes.map fun byte => ⟨byte, !quoted⟩
    | boundary => [⟨32, false⟩]
    | absent => [])

/-- Unquoted text is split once it stands in the place of a parameter. -/
def splitting : Fragment → Fragment
  | text bytes false _ => text bytes false true
  | fragment => fragment

end Fragment

/-- The paths that start with one of some paths and go on by a name that a pattern matches. A name
with a leading point is matched only by a leading point. A part without special bytes is taken as
it is, as long as something is there. -/
def extendPaths (directory : Directory) (part : List Cell) (paths : List Bytes) : List Bytes :=
  if hasSpecial part then
    let pattern := patternOf part
    let beginsWithPoint := (part.head?.map Cell.byte) == some 46
    paths.flatMap fun path =>
      let folder := if path.isEmpty then "." else path.toStringLossy
      match directory.locate folder with
      | .ok (.found place .folder) =>
        let names := (directory.namesIn place).map Bytes.ofString
        (names.filter fun name =>
          matchesWhole pattern name && (name.head? != some 46 || beginsWithPoint)).map (path ++ ·)
      | _ => []
  else
    (paths.map (· ++ cellBytes part)).filter fun path =>
      path.isEmpty || (directory.entry path.toStringLossy).toOption.isSome

/-- Tells the cells of a field apart at slashes. -/
def pathParts (cells : List Cell) : List (List Cell) :=
  cells.foldr (fun cell parts =>
    if cell.byte = 47 then [] :: parts
    else match parts with
      | part :: others => (cell :: part) :: others
      | [] => [[cell]]) [[]]

/-- The paths that match the parts of a field, behind those that match the parts before them. -/
def matchingPaths (directory : Directory) (paths : List Bytes) : List (List Cell) → List Bytes
  | [] => paths
  | [part] => extendPaths directory part paths
  | part :: parts =>
    let folders := (extendPaths directory part paths).map (· ++ [47])
    matchingPaths directory folders parts

/-- The names of the files that a field matches, or the field itself if there are none. -/
def fileNames (directory : Directory) (cells : List Cell) : List Bytes :=
  let found := matchingPaths directory [[]] (pathParts cells)
  if found.isEmpty then [cellBytes cells] else found

/-- Drops the line ends at the end of a text. -/
def dropLastLineEnds (text : Bytes) : Bytes :=
  (text.reverse.dropWhile (· == 10)).reverse

/-- Runs the commands of a text, as far as it can be read. -/
def runText (level : Level) (tested : Bool) (text : String) : Session Unit := do
  let script := readScript text
  for command in script.commands do
    if ← isRunning then level.run tested command
  if let some (line, fault) := script.fault then
    if ← isRunning then
      modify fun state => { state with line }
      abandon 2 ("Syntax error: " ++ fault.message)

/-- Runs the commands that a trap has for a number, if there are any. They leave the status as it
was, unless they end the script themselves. The trap for the end of the script is run once. -/
def runTrap (level : Level) (number : Nat) : Session Unit := do
  let before ← get
  match Entries.get? number before.traps with
  | none => return
  | some text =>
    let traps := if number = 0 then Entries.remove 0 before.traps else before.traps
    set { before with traps, stop := none }
    runText level false text
    if ← isRunning then
      modify fun state => { state with status := before.status, stop := before.stop }

/-- Takes in a signal. A trap that does nothing ignores it, but nothing keeps the signal 9 from
ending the program. -/
def receive (level : Level) (signal : Nat) : Session Unit := do
  let state ← get
  match Entries.get? signal (state.outerTraps.getD state.traps) with
  | some text =>
    if signal = 9 then halt (.killed signal)
    else if text = "" then return
    else if state.outerTraps.isNone then runTrap level signal
    else set { state with pending := state.pending ++ [signal] }
  | none => if signalEnds signal then halt (.killed signal)

/-- Does something in a state of its own, of which only what it wrote, the files and the input that
it left are taken over. A signal to the program ends what is outside, too. -/
def isolated (level : Level) (action : Session Unit) : Session Unit := do
  let outer ← get
  set { outer with
    traps := outer.traps.filter (·.2 == "")
    outerTraps := some (outer.outerTraps.getD outer.traps) }
  action
  unless (← get).stop matches some (.killed _) do runTrap level 0
  let inner ← get
  let (status, stop) := match inner.stop with
    | some (.exited status) => (status % 256, none)
    | some (.killed signal) => (128 + signal, some (.killed signal))
    | _ => (inner.status % 256, none)
  set { outer with
    status := status
    stop := stop
    pending := if outer.outerTraps.isNone then [] else inner.pending
    sources := inner.sources.take outer.sources.length
    written := inner.written
    sinks := inner.sinks
    directory := { inner.directory with current := outer.directory.current } }
  if outer.outerTraps.isNone then
    for signal in inner.pending do
      if ← isRunning then runTrap level signal

/-- The value of a parameter, which must be set if the script says so. -/
def valueOf (name : String) : Session Bytes := do
  let state ← get
  match state.parameter? name with
  | some value => return value
  | none =>
    if state.has 'u' then abandon 2 (name ++ ": parameter not set")
    return []

/-- The parameters of a script as one text, with the first separator between them. -/
def allParameters (state : State) : Bytes :=
  let separator := match Entries.get? "IFS" state.bindings with
    | some (byte :: _) => [byte]
    | some [] => []
    | none => [32]
  List.intercalate separator state.parameters

/-- Expands a parameter. -/
def expandParameter (name : String) (quoted : Bool) : Session (List Fragment) := do
  let state ← get
  if name = "@" ∨ (name = "*" ∧ ¬ quoted) then
    if state.parameters.isEmpty then return [.absent]
    return List.intersperse .boundary
      (state.parameters.map fun value => .text value quoted (!quoted))
  else if name = "*" then return [.text (allParameters state) quoted (!quoted)]
  else return [.text (← valueOf name) quoted (!quoted)]

/-- Expands a parameter that is adjusted by a word. -/
def expandAdjusted (level : Level) (name : String) (adjustment : Adjustment) (emptyIsNone : Bool)
    (word : Word) (quoted : Bool) : Session (List Fragment) := do
  let state ← get
  let isList := name = "@" ∨ name = "*"
  let value? : Option Bytes :=
    if isList then if state.parameters.isEmpty then none else some (allParameters state)
    else state.parameter? name
  let hasValue := match value? with
    | some value => !(emptyIsNone && value.isEmpty)
    | none => false
  let own : Session (List Fragment) :=
    if isList then expandParameter name quoted
    else return [.text (value?.getD []) quoted (!quoted)]
  let inside : Session (List Fragment) := do
    let fragments ← level.expand word
    return if quoted then fragments else fragments.map Fragment.splitting
  match adjustment with
  | .orElse => if hasValue then own else inside
  | .instead => if hasValue then inside else return [.text [] false true]
  | .orAssign =>
    if hasValue then own
    else
      let value := Fragment.joined (← level.expand word)
      modify fun state => state.assign name value
      return [.text value quoted (!quoted)]
  | .orFail =>
    if hasValue then own
    else
      let message := (Fragment.joined (← level.expand word)).toStringLossy
      let standard :=
        if emptyIsNone then "parameter not set or null" else "parameter not set"
      abandon 2 (name ++ ": " ++ (if word.isEmpty then standard else message))
      return []
  | .withoutStart longest =>
    let value ← valueOf name
    let pattern := Fragment.pattern (← level.expand word)
    return [.text (withoutStart longest pattern value) quoted (!quoted)]
  | .withoutEnd longest =>
    let value ← valueOf name
    let pattern := Fragment.pattern (← level.expand word)
    return [.text (withoutEnd longest pattern value) quoted (!quoted)]

/-- Expands an arithmetic expression. -/
def expandArithmetic (text : String) : Session Bytes := do
  let state ← get
  match (Arithmetic.read text).bind (·.eval state.bindings) with
  | .ok (value, bindings) =>
    set { state with bindings }
    return Bytes.ofString (toString value.toInt)
  | .error fault =>
    abandon 2 (fault.message text)
    return []

/-- Expands a part of a word. -/
def expandPart (level : Level) : Part → Session (List Fragment)
  | .literal text quoted => return [.text (Bytes.ofString (String.ofList text)) quoted false]
  | .parameter name quoted => expandParameter name quoted
  | .length name quoted => do
    let length ←
      if name = "@" ∨ name = "*" then pure (allParameters (← get)).length
      else pure (← valueOf name).length
    return [.text (Bytes.ofString length.repr) quoted (!quoted)]
  | .adjusted name adjustment emptyIsNone word quoted =>
    expandAdjusted level name adjustment emptyIsNone word quoted
  | .arithmetic text quoted => do
    let text := (Fragment.joined (← level.expand text)).toStringLossy
    return [.text (← expandArithmetic text) quoted (!quoted)]
  | .substitution body quoted => do
    let before ← get
    let output ← capturing (isolated level (level.run false body))
    modify fun state => { state with status := before.status, substituted := state.status }
    return [.text (dropLastLineEnds (output.filter (· != 0))) quoted (!quoted)]
  | .malformed => do
    abandon 2 "Bad substitution"
    return []

/-- Expands the parts of a word one after the other. -/
def expandWord (level : Level) (word : Word) : Session (List Fragment) := do
  let mut fragments := []
  for part in word do
    if ← isRunning then fragments := fragments ++ (← expandPart level part)
  return fragments

/-- Expands words to fields. -/
def expandFields (level : Level) (words : List Word) : Session (List Bytes) := do
  let mut fields := []
  for word in words do
    let fragments ← expandWord level word
    let state ← get
    for field in Fragment.fields (.ofState state) fragments do
      if hasSpecial field ∧ ¬ state.has 'f' then
        fields := fields ++ fileNames state.directory field
      else fields := fields ++ [cellBytes field]
  return fields

/-- Expands a word to one text. -/
def expandText (level : Level) (word : Word) : Session Bytes :=
  return Fragment.joined (← expandWord level word)

end SyntaxFold.Sandbox.Shell
