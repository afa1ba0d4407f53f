import SyntaxFold.Sandbox.Utility.Selecting
import SyntaxFold.Sandbox.Utility.Mapping

/-!
# Edit scripts

The scripts by which lines are edited: a list of commands, each with the lines that it is for.
Commands in braces stay in the list, between an opening and a closing one, so that a command is
found by its number. A fault comes with the number of the character at which it was found.
-/

namespace SyntaxFold.Sandbox.Utility

/-- A piece of the text that is put in the place of a match. -/
inductive TemplatePart where
  | byte (value : UInt8)
  /-- What a group has matched; the group 0 is the whole match. -/
  | group (number : Nat)
  deriving DecidableEq, Repr

/-- A replacement in a line. -/
structure Replacement where
  /-- The expression; without one it is the one that was used last. -/
  regex : Option Regex
  template : List TemplatePart
  ignoreCase : Bool
  /-- The number of the first match that is replaced. -/
  first : Nat
  /-- Whether the matches behind it are replaced, too. -/
  everywhere : Bool
  /-- Whether a line is printed in which something was replaced. -/
  prints : Bool

/-- Which lines a command is for. -/
inductive Address where
  | line (number : Nat)
  | final
  /-- Every line so many lines behind the first one. -/
  | every (first step : Nat)
  | matching (regex : Option Regex) (ignoreCase : Bool)
  /-- So many lines behind the start of a range. -/
  | after (count : Nat)

/-- What a command does. -/
inductive Edit where
  | replace (replacement : Replacement)
  | mapBytes (source target : Bytes)
  | delete
  /-- Deletes up to the first line end. -/
  | deleteFirst
  | print
  | printFirst
  | printNumber
  | next
  | appendNext
  | quit (status : Nat) (prints : Bool)
  | append (text : Bytes)
  | insert (text : Bytes)
  | change (text : Bytes)
  | hold (adds : Bool)
  | get (adds : Bool)
  | exchange
  | label (name : Bytes)
  /-- Goes on at a label, or at the end; perhaps only if something was, or was not, replaced. -/
  | branch (target : Bytes) (whenReplaced : Option Bool)
  | opening
  | closing
  /-- Does nothing. -/
  | nothing

/-- A command of an edit script, with the lines that it is for. -/
structure EditCommand where
  first : Option Address
  last : Option Address
  negated : Bool
  edit : Edit

/-- What is wrong with an edit script: how much text was left when it was found, and a message. -/
abbrev EditFault := Nat × String

/-- A reader of edit scripts. -/
abbrev EditReader := StateT Bytes (Except EditFault)

namespace EditReader

/-- Ends with a fault at the current place. -/
def refuse {α : Type} (message : String) : EditReader α := do
  throw ((← get).length, message)

/-- Ends with a fault behind the whole text. -/
def refuseAtEnd {α : Type} (message : String) : EditReader α := throw (0, message)

/-- Ends with a fault behind the next byte, if there is one. -/
def refuseNext {α : Type} (message : String) : EditReader α := do
  throw ((← get).length - 1, message)

/-- Drops the bytes at the start that have a property. -/
def skip (drops : UInt8 → Bool) : EditReader Unit := modify (·.dropWhile drops)

/-- Takes the bytes at the start that have a property. -/
def takeWhile (takes : UInt8 → Bool) : EditReader Bytes := do
  let text ← get
  set (text.dropWhile takes)
  return text.takeWhile takes

/-- Takes the next byte, if there is one. -/
def next? : EditReader (Option UInt8) := do
  match ← get with
  | [] => return none
  | byte :: rest =>
    set rest
    return some byte

end EditReader

open EditReader

/-- Whether a byte is a blank within a line. -/
def isLineBlank (byte : UInt8) : Bool := byte == 32 || byte == 9

/-- Whether a byte can stand between commands. -/
def separatesCommands (byte : UInt8) : Bool := isLineBlank byte || byte == 59 || byte == 10

/-- What surrounds a place in an expression. -/
inductive Surrounding where
  | nothing
  | set
  /-- A class of bytes in a set, which the byte ends with a bracket behind it. -/
  | bytesUpTo (byte : UInt8)
  deriving DecidableEq, Repr

/-- Puts bytes in front of the first part of a text that is split. -/
def inFront (kept : Bytes) (split : Option (Bytes × Bytes)) : Option (Bytes × Bytes) :=
  split.map fun (before, after) => (kept ++ before, after)

/-- Splits text at the first mark that neither a backslash precedes nor, in an expression, a bracket
surrounds. The mark loses its backslash. -/
def splitAtMark (isRegex : Bool) (mark : UInt8) (surrounding : Surrounding) (text : Bytes) :
    Option (Bytes × Bytes) :=
  match surrounding, text with
  | _, [] => none
  | .bytesUpTo last, byte :: rest =>
    match rest with
    | 93 :: behind =>
      if byte = last then inFront [byte, 93] (splitAtMark isRegex mark .set behind)
      else inFront [byte] (splitAtMark isRegex mark surrounding (93 :: behind))
    | rest => inFront [byte] (splitAtMark isRegex mark surrounding rest)
  | .set, byte :: rest =>
    match byte, rest with
    | 91, kind :: behind =>
      if kind = 58 ∨ kind = 46 ∨ kind = 61 then
        inFront [91, kind] (splitAtMark isRegex mark (.bytesUpTo kind) behind)
      else inFront [91] (splitAtMark isRegex mark .set (kind :: behind))
    | byte, rest =>
      inFront [byte] (splitAtMark isRegex mark (if byte = 93 then .nothing else .set) rest)
  | .nothing, byte :: rest =>
    match byte, rest with
    | 92, byte :: behind =>
      inFront (if byte = mark then [byte] else [92, byte])
        (splitAtMark isRegex mark .nothing behind)
    | byte, rest =>
      if byte = mark then some ([], rest)
      else if byte = 10 then none
      else
        match isRegex && byte == 91, rest with
        | true, 94 :: 93 :: behind =>
          inFront [byte, 94, 93] (splitAtMark isRegex mark .set behind)
        | true, 93 :: behind => inFront [byte, 93] (splitAtMark isRegex mark .set behind)
        | opens, rest =>
          inFront [byte] (splitAtMark isRegex mark (if opens then .set else .nothing) rest)
termination_by text.length

/-- The text that is put in the place of a match: an ampersand is the match, a digit behind a
backslash a group of it. -/
def readTemplate : Bytes → List TemplatePart
  | 92 :: byte :: rest =>
    let part : TemplatePart :=
      if 48 ≤ byte ∧ byte ≤ 57 then .group (byte.toNat - 48)
      else if byte = 110 then .byte 10
      else if byte = 116 then .byte 9
      else .byte byte
    part :: readTemplate rest
  | 38 :: rest => .group 0 :: readTemplate rest
  | byte :: rest => .byte byte :: readTemplate rest
  | [] => []

/-- The expression that a text spells; an empty one stands for the one that was used last. -/
def readPattern (extended : Bool) (pattern : Bytes) : EditReader (Option Regex) :=
  if pattern.isEmpty then return none
  else match Regex.read ⟨extended, false⟩ pattern with
    | .ok regex => return some regex
    | .error fault => refuse fault.message

/-- Reads an expression up to its mark, and whether it ignores the case of letters. -/
def readMatching (extended : Bool) (mark : UInt8) : EditReader Address := do
  match splitAtMark true mark .nothing (← get) with
  | none => refuseAtEnd "unterminated address regex"
  | some (pattern, rest) =>
    set rest
    let regex ← readPattern extended pattern
    let flags ← takeWhile fun byte => byte == 73 || byte == 77
    return .matching regex (flags.contains 73)

/-- Reads an address, if there is one. -/
def readAddress? (extended : Bool) : EditReader (Option Address) := do
  match ← get with
  | 36 :: rest =>
    set rest
    return some .final
  | 47 :: rest =>
    set rest
    return some (← readMatching extended 47)
  | 92 :: mark :: rest =>
    set rest
    return some (← readMatching extended mark)
  | 43 :: rest =>
    set rest
    let (count, rest) := readNumber rest
    set rest
    return some (.after (count.getD 0))
  | text =>
    match readNumber text with
    | (none, _) => return none
    | (some first, 126 :: rest) =>
      let (step, rest) := readNumber rest
      set rest
      return some (.every first (step.getD 0))
    | (some number, rest) =>
      set rest
      return some (.line number)

/-- The options of a replacement: a number, and the letters that were found. -/
structure ReplacementFlags where
  number : Option Nat
  letters : List Char

/-- Reads the options of a replacement. The fuel is the length of the text. -/
def readFlags (fuel : Nat) (flags : ReplacementFlags) : EditReader ReplacementFlags :=
  match fuel with
  | 0 => return flags
  | fuel + 1 => do
    match ← get with
    | [] => return flags
    | byte :: rest =>
      let letter := Char.ofNat byte.toNat
      if letter.isDigit then
        let (number, behind) := readNumber (byte :: rest)
        set behind
        if number = some 0 then refuse "number option to \x60s' command may not be zero"
        else if flags.number.isSome then refuse "multiple number options to \x60s' command"
        else readFlags fuel { flags with number }
      else if ['g', 'p', 'i', 'I', 'm', 'M'].contains letter then
        set rest
        if ['g', 'p'].contains letter ∧ flags.letters.contains letter then
          refuse ("multiple \x60" ++ letter.toString ++ "' options to \x60s' command")
        else readFlags fuel { flags with letters := letter :: flags.letters }
      else if byte = 32 then
        set rest
        readFlags fuel flags
      else if separatesCommands byte ∨ letter = '#' ∨ letter = '\x7d' then return flags
      else
        set rest
        refuse "unknown option to \x60s'"

/-- Reads a replacement, behind its letter. -/
def readReplacement (extended : Bool) : EditReader Edit := do
  let unterminated := "unterminated \x60s' command"
  match ← next? with
  | none => refuse unterminated
  | some mark =>
    match splitAtMark true mark .nothing (← get) with
    | none => refuseAtEnd unterminated
    | some (pattern, rest) =>
      match splitAtMark false mark .nothing rest with
      | none => refuseAtEnd unterminated
      | some (template, rest) =>
        set rest
        let flags ← readFlags rest.length ⟨none, []⟩
        let regex ← readPattern extended pattern
        let template := readTemplate template
        let groups := (regex.map Regex.groupCount).getD 0
        let largest := template.foldl (fun largest part =>
          match part with
          | .group number => max largest number
          | .byte _ => largest) 0
        if regex.isSome ∧ groups < largest then
          refuse ("invalid reference \\" ++ largest.repr ++ " on \x60s' command's RHS")
        else
          return .replace
            { regex := regex
              template := template
              ignoreCase := flags.letters.contains 'i' || flags.letters.contains 'I'
              first := flags.number.getD 1
              everywhere := flags.letters.contains 'g'
              prints := flags.letters.contains 'p' }

/-- The bytes of a mapping, without the backslashes. -/
def mappingBytes : Bytes → Bytes
  | 92 :: 110 :: rest => 10 :: mappingBytes rest
  | 92 :: 116 :: rest => 9 :: mappingBytes rest
  | 92 :: 92 :: rest => 92 :: mappingBytes rest
  | byte :: rest => byte :: mappingBytes rest
  | [] => []

/-- Reads a mapping of bytes, behind its letter. -/
def readMapping : EditReader Edit := do
  let unterminated := "unterminated \x60y' command"
  match ← next? with
  | none => refuse unterminated
  | some mark =>
    match splitAtMark false mark .nothing (← get) with
    | none => refuseAtEnd unterminated
    | some (first, rest) =>
      match splitAtMark false mark .nothing rest with
      | none => refuseAtEnd unterminated
      | some (second, rest) =>
        set rest
        let source := mappingBytes first
        let target := mappingBytes second
        if source.length = target.length then return .mapBytes source target
        else refuse "strings for \x60y' command are different lengths"

/-- The text of a line that may go on behind a backslash, and what is behind it. It is ended even
where the script ends, unless it is empty there. -/
def editLineText (isStart : Bool) : Bytes → Bytes × Bytes
  | [] => (if isStart then [] else [10], [])
  | 10 :: rest => ([10], rest)
  | 92 :: byte :: rest =>
    let (text, behind) := editLineText false rest
    (byte :: text, behind)
  | byte :: rest =>
    let (text, behind) := editLineText false rest
    (byte :: text, behind)

/-- Reads the text behind a letter, up to the end of the line. A backslash keeps the blanks at its
start, and may be followed by a line end. -/
def readEditText : EditReader Bytes := do
  skip isLineBlank
  match ← get with
  | [] => refuse "expected \\ after \x60a', \x60c' or \x60i'"
  | text =>
    let text := match text with
      | 92 :: rest =>
        match rest.dropWhile isLineBlank with
        | 10 :: behind => behind
        | _ => rest
      | text => text
    let (text, behind) := editLineText true text
    set behind
    return text

/-- Whether a script asks for a version of the editor that is newer than 4.9. -/
def isNewerVersion (version : Bytes) : Bool :=
  match readNumber version with
  | (none, _) => !version.isEmpty
  | (some number, 46 :: rest) => 4 < number || (number == 4 && 9 < (readNumber rest).1.getD 0)
  | (some number, _) => 4 < number

/-- Reads the name of a label. -/
def readLabel (takesAll : Bool) : EditReader Bytes := do
  skip isLineBlank
  takeWhile fun byte => !(byte == 10 || (!takesAll && (byte == 59 || isLineBlank byte)))

/-- Reads what a command does, by its letter. -/
def readEdit (extended : Bool) (letter : Char) : EditReader Edit := do
  match letter with
  | 's' => readReplacement extended
  | 'y' => readMapping
  | 'd' => return .delete
  | 'D' => return .deleteFirst
  | 'p' => return .print
  | 'P' => return .printFirst
  | '=' => return .printNumber
  | 'n' => return .next
  | 'N' => return .appendNext
  | 'q' | 'Q' =>
    skip isLineBlank
    let (status, rest) := readNumber (← get)
    set rest
    return .quit (status.getD 0) (letter == 'q')
  | 'a' => return .append (← readEditText)
  | 'i' => return .insert (← readEditText)
  | 'c' => return .change (← readEditText)
  | 'h' => return .hold false
  | 'H' => return .hold true
  | 'g' => return .get false
  | 'G' => return .get true
  | 'x' => return .exchange
  | 'b' => return .branch (← readLabel false) none
  | 't' => return .branch (← readLabel false) (some true)
  | 'T' => return .branch (← readLabel false) (some false)
  | '\x7b' => return .opening
  | '\x7d' => return .closing
  | ':' =>
    let name ← readLabel false
    if name.isEmpty then refuse "\":\" lacks a label" else return .label name
  | 'v' =>
    if isNewerVersion (← readLabel false) then refuse "expected newer version of sed"
    else return .nothing
  | _ => refuse ("unknown command: \x60" ++ letter.toString ++ "'")

/-- Checks what stands behind a command. -/
def readCommandEnd (edit : Edit) : EditReader Unit := do
  let needsNone := match edit with
    | .opening | .append _ | .insert _ | .change _ | .label _ => true
    | _ => false
  unless needsNone do
    skip isLineBlank
    match ← get with
    | [] | 125 :: _ | 35 :: _ => return
    | byte :: rest =>
      set rest
      unless byte = 59 ∨ byte = 10 do refuse "extra characters after command"

/-- Reads the command behind its addresses, with so many braces open. -/
def readCommand (extended : Bool) (depth : Nat) (first last : Option Address) :
    EditReader EditCommand := do
  skip isLineBlank
  let negated := (← get).head? == some 33
  if negated then
    let _ ← next?
    skip isLineBlank
    if (← get).head? = some 33 then
      let _ ← next?
      refuse "multiple \x60!'s"
  match ← next? with
  | none => refuse "missing command"
  | some byte =>
    if byte = 125 ∧ depth = 0 then refuse "unexpected \x60\x7d'"
    let edit ← readEdit extended (Char.ofNat byte.toNat)
    readCommandEnd edit
    return ⟨first, last, negated, edit⟩

/-- Reads the commands of an edit script, with so many braces open. The fuel is the length of the
text. -/
def readEdits (extended : Bool) (fuel depth : Nat) : EditReader (List EditCommand) := do
  skip separatesCommands
  match fuel, ← get with
  | _, [] => if depth = 0 then return [] else throw (0, "unmatched \x60\x7b'")
  | 0, _ => refuse "missing command"
  | fuel + 1, 35 :: rest =>
    set (rest.dropWhile (· != 10))
    readEdits extended fuel depth
  | fuel + 1, _ =>
    let first ← readAddress? extended
    let last ← match first, ← get with
      | some _, 44 :: rest =>
        set rest
        skip isLineBlank
        match ← readAddress? extended with
        | some last => pure (some last)
        | none => refuseNext "unexpected \x60,'"
      | _, _ => pure none
    match first, last with
    | some (.line 0), some (.matching ..) => pure ()
    | some (.line 0), _ => refuseNext "invalid usage of line address 0"
    | some (.after _), _ => refuse "invalid usage of +N or ~N as first address"
    | _, _ => pure ()
    let command ← readCommand extended depth first last
    let depth ← match command.edit with
      | .opening => pure (depth + 1)
      | .closing => pure (depth - 1)
      | _ => pure depth
    return command :: (← readEdits extended fuel depth)

/-- The label that a branch of a script goes to, if there is none. -/
def missingLabel? (commands : List EditCommand) : Option Bytes :=
  let names := commands.filterMap fun command =>
    match command.edit with
    | .label name => some name
    | _ => none
  commands.findSome? fun command =>
    match command.edit with
    | .branch target _ => if target.isEmpty ∨ names.contains target then none else some target
    | _ => none

/-- The commands of an edit script, or what is wrong with it and the status that it leads to. -/
def readEditScript (extended : Bool) (script : Bytes) : Except (String × Nat) (List EditCommand) :=
  match (readEdits extended (script.length + 1) 0).run script with
  | .error (left, message) =>
    let place := if message.startsWith "unmatched" then 0 else script.length - left
    .error ("-e expression #1, char " ++ place.repr ++ ": " ++ message, 1)
  | .ok (commands, _) =>
    match missingLabel? commands with
    | some name =>
      .error ("can't find label for jump to \x60" ++ Bytes.toStringLossy name ++ "'", 4)
    | none => .ok commands

end SyntaxFold.Sandbox.Utility
