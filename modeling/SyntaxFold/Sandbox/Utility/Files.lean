import SyntaxFold.Sandbox.Utility.Arguments

/-!
# Files

The utilities that copy, make, move and remove files, and those that take the names of files apart.
-/

namespace SyntaxFold.Sandbox.Utility

/-- The options of the utility that copies to the output. -/
def catOptions : List OptionRule :=
  [.plain 'n' "number", .plain 'b' "number-nonblank", .plain 's' "squeeze-blank",
    .plain 'E' "show-ends", .plain 'T' "show-tabs", .plain 'v' "show-nonprinting",
    .plain 'A' "show-all", .plain 'e' "e", .plain 't' "t", .plain 'u' "u"]

/-- A byte as it is shown: with a mark for those that cannot be printed. -/
def shownByte (showsTabs showsOthers : Bool) (byte : UInt8) : Bytes :=
  let low (byte : UInt8) : Bytes :=
    if byte < 32 then [94, byte + 64] else if byte = 127 then [94, 63] else [byte]
  if byte = 9 then if showsTabs then [94, 73] else [9]
  else if !showsOthers then [byte]
  else if byte < 128 then low byte
  else [77, 45] ++ low (byte - 128)

/-- A line with its number in front. -/
def withNumber (number : Nat) (line : Bytes) : Bytes :=
  let digits := number.repr
  let filled := String.ofList (List.replicate (6 - digits.length) ' ') ++ digits ++ "\t"
  Bytes.ofString filled ++ line

/-- A text as options ask to show it: its lines are numbered, empty ones dropped where others stand
before them, and what cannot be seen is marked. -/
def shownText (given : Given) (text : Bytes) : Bytes :=
  let all := given.has "show-all"
  let tabs := all || given.has "show-tabs" || given.has "t"
  let others := all || given.has "show-nonprinting" || given.has "e" || given.has "t"
  let ends := all || given.has "show-ends" || given.has "e"
  let step (state : Bytes × Nat × Bool) (line : Bytes × Bool) : Bytes × Nat × Bool :=
    let (shown, number, afterEmpty) := state
    let isEmpty := line.1.isEmpty
    if given.has "squeeze-blank" ∧ isEmpty ∧ afterEmpty then (shown, number, true)
    else
      let numbers :=
        if given.has "number-nonblank" then !isEmpty else given.has "number"
      let body := line.1.flatMap (shownByte tabs others)
      let body := if numbers then withNumber number body else body
      let ending := if line.2 then if ends then [36, 10] else [10] else []
      (shown ++ body ++ ending, if numbers then number + 1 else number, isEmpty)
  ((linesOf text.length text).foldl step ([], 1, false)).1

/-- Copies what the operands name to the output, in their order, perhaps with marks. -/
def cat (request : Request) : Effect :=
  request.taking catOptions fun given =>
    if given.options.all fun option => option.1 == "u" then
      request.each given.operands shownName id
    else request.together given.operands shownName (shownText given)

/-- Copies the input to the output and to files. -/
def tee (request : Request) : Effect :=
  let rules := [OptionRule.plain 'a' "append", .plain 'i' "ignore-interrupts", .plain 'p' "p"]
  request.taking rules fun given =>
    let start : Effect := { request.printing request.input with input := [] }
    given.operands.foldl (fun effect (operand : Bytes) =>
      let path := operand.toStringLossy
      let before := match given.has "append", effect.directory.content path with
        | true, .ok content => content.bytes
        | _, _ => []
      match effect.directory.writeContent path (.ofBytes (before ++ request.input)) with
      | .ok directory => { effect with directory }
      | .error fault =>
        let message := request.message (shownName path ++ ": " ++ fault.reason)
        { effect with written := effect.written ++ [(2, message)], status := 1 }) start

/-- Changes the files at the operands one after the other, and goes on after a failure. -/
def changing (request : Request) (operands : List Bytes)
    (change : Directory → String → Except String Directory) : Effect :=
  operands.foldl (fun effect (operand : Bytes) =>
    match change effect.directory operand.toStringLossy with
    | .ok directory => { effect with directory }
    | .error message =>
      { effect with
        written := effect.written ++ [(2, request.message message)]
        status := 1 }) (request.ending 0)

/-- Makes the files at the operands if they are not there. -/
def touch (request : Request) : Effect :=
  let rules := [OptionRule.plain 'a' "access", .plain 'm' "modification", .plain 'c' "no-create",
    .valued 'd' "date", .valued 'r' "reference", .valued 't' "t"]
  request.taking rules fun given =>
    if given.operands.isEmpty then request.failing 1 ("missing file operand" ++ request.hint)
    else changing request given.operands fun directory path =>
      match directory.locate path with
      | .ok (.found ..) => .ok directory
      | .ok (.missing place) =>
        if given.has "no-create" then .ok directory
        else if path.endsWith "/" then
          .error ("setting times of " ++ quotedName path ++ ": " ++ FileFault.notFound.reason)
        else .ok (directory.put place (.file (.text "") false))
      | .error fault => .error ("cannot touch " ++ quotedName path ++ ": " ++ fault.reason)

/-- A directory without a place and all that is inside it. -/
def without (directory : Directory) (place : Place) : Directory :=
  { directory with
    entries := directory.entries.filter fun (other, _) =>
      !(other == place || other.isInside place) }

/-- Removes the files at the operands. -/
def rm (request : Request) : Effect :=
  let rules := [OptionRule.plain 'f' "force", .plain 'r' "recursive", .plain 'R' "recursive",
    .plain 'd' "dir", .plain 'i' "interactive", .plain 'v' "verbose"]
  request.taking rules fun given =>
    let forced := given.has "force"
    if given.operands.isEmpty then
      if forced then request.ending 0 else request.failing 1 ("missing operand" ++ request.hint)
    else changing request given.operands fun directory path =>
      let refuse (fault : FileFault) : Except String Directory :=
        .error ("cannot remove " ++ quotedName path ++ ": " ++ fault.reason)
      match directory.locate path with
      | .ok (.found place .folder) =>
        if given.has "recursive" then .ok (without directory place) else refuse .isDirectory
      | .ok (.found place _) => .ok (without directory place)
      | .ok (.missing _) => if forced then .ok directory else refuse .notFound
      | .error fault => if forced then .ok directory else refuse fault

/-- Makes the directories that the parts of a path lead through, as far as they are not there. -/
def makeAll (directory : Directory) (path : String) : List String → Except String Directory
  | [] => .ok directory
  | part :: rest =>
    let path := if path = "" ∨ path = "/" then path ++ part else path ++ "/" ++ part
    match directory.locate path with
    | .ok (.found _ .folder) => makeAll directory path rest
    | .ok (.found ..) =>
      .error ("cannot create directory " ++ quotedName path ++ ": File exists")
    | .ok (.missing place) => makeAll (directory.put place .folder) path rest
    | .error fault =>
      .error ("cannot create directory " ++ quotedName path ++ ": " ++ fault.reason)

/-- Makes the directories at the operands. -/
def mkdir (request : Request) : Effect :=
  let rules := [OptionRule.plain 'p' "parents", .valued 'm' "mode", .plain 'v' "verbose"]
  request.taking rules fun given =>
    if given.operands.isEmpty then request.failing 1 ("missing operand" ++ request.hint)
    else changing request given.operands fun directory path =>
      match given.has "parents", directory.locate path with
      | true, _ =>
        makeAll directory (if path.startsWith "/" then "/" else "") (Path.ofText path).parts
      | false, .ok (.missing place) => .ok (directory.put place .folder)
      | false, .ok (.found ..) =>
        .error ("cannot create directory " ++ quotedName path ++ ": File exists")
      | false, .error fault =>
        .error ("cannot create directory " ++ quotedName path ++ ": " ++ fault.reason)

/-- Removes the empty directories at the operands. -/
def rmdir (request : Request) : Effect :=
  request.taking [.plain 'p' "parents", .plain 'v' "verbose"] fun given =>
    if given.operands.isEmpty then request.failing 1 ("missing operand" ++ request.hint)
    else changing request given.operands fun directory path =>
      let refuse (reason : String) : Except String Directory :=
        .error ("failed to remove " ++ quotedName path ++ ": " ++ reason)
      match directory.locate path with
      | .ok (.found place .folder) =>
        if (directory.namesIn place).isEmpty then .ok (without directory place)
        else refuse "Directory not empty"
      | .ok (.found ..) => refuse FileFault.notDirectory.reason
      | .ok (.missing _) => refuse FileFault.notFound.reason
      | .error fault => refuse fault.reason

/-- The last part of a path. -/
def lastPart (path : String) : String :=
  match (Path.ofText path).parts.getLast? with
  | some part => part
  | none => if path.startsWith "/" then "/" else path

/-- The options of the utilities that copy and move files. -/
def transferOptions : List OptionRule :=
  [.plain 'f' "force", .plain 'n' "no-clobber", .plain 'r' "recursive", .plain 'R' "recursive",
    .plain 'a' "archive", .plain 'p' "p", .plain 'u' "update", .plain 'T' "no-target-directory"]

/-- Copies or moves one file to a path, or into the directory that is there. -/
def transferOne (moves keeps : Bool) (target : String) (directory : Directory) (path : String) :
    Except String Directory :=
  let verb := if moves then "move" else "copy"
  let destination := match directory.entry target with
    | .ok .folder => target ++ "/" ++ lastPart path
    | _ => target
  match directory.locate path with
  | .ok (.found place (.file content executable)) =>
    match directory.locate destination with
    | .ok (.found other entry) =>
      if other = place then
        .error (quotedName path ++ " and " ++ quotedName destination ++ " are the same file")
      else if keeps then .ok directory
      else
        let kept := match entry with
          | .file _ executable => executable
          | _ => executable
        let directory := if moves then without directory place else directory
        .ok (directory.put other (.file content (if moves then executable else kept)))
    | .ok (.missing other) =>
      let directory := if moves then without directory place else directory
      .ok (directory.put other (.file content executable))
    | .error fault =>
      .error ("cannot " ++ verb ++ " to " ++ quotedName destination ++ ": " ++ fault.reason)
  | .ok (.found ..) => .error ("-r not specified; omitting directory " ++ quotedName path)
  | .ok (.missing _) =>
    .error ("cannot stat " ++ quotedName path ++ ": " ++ FileFault.notFound.reason)
  | .error fault => .error ("cannot stat " ++ quotedName path ++ ": " ++ fault.reason)

/-- Copies or moves files. Several of them, or one into a directory, keep their names. -/
def transfer (moves : Bool) (request : Request) : Effect :=
  request.taking transferOptions fun given =>
    match given.operands.reverse with
    | [] => request.failing 1 ("missing file operand" ++ request.hint)
    | [only] =>
      let quoted := quotedName (Bytes.toStringLossy only)
      request.failing 1 ("missing destination file operand after " ++ quoted ++ request.hint)
    | target :: sources =>
      let target := Bytes.toStringLossy target
      if 1 < sources.length ∧ ¬ directoryAt target then
        request.failing 1 ("target " ++ quotedName target ++ ": " ++ reasonAt target)
      else
        changing request sources.reverse (transferOne moves (given.has "no-clobber") target)
where
  /-- Whether a directory is at a path. -/
  directoryAt (path : String) : Bool := request.directory.entry path matches .ok .folder
  /-- Why there is no directory at a path. -/
  reasonAt (path : String) : String :=
    match request.directory.entry path with
    | .ok _ => FileFault.notDirectory.reason
    | .error fault => fault.reason

/-- Copies files. -/
def cp (request : Request) : Effect := transfer false request

/-- Moves files. -/
def mv (request : Request) : Effect := transfer true request

/-- Whether a mode makes a file executable; `none` when it says nothing about that. -/
def modeExecutable? (mode : String) : Option Bool :=
  let characters := mode.toList
  if characters.all Char.isDigit then
    some (characters.any fun c => c.toNat % 2 == 1)
  else if characters.contains 'x' then some (!characters.contains '-')
  else none

/-- Changes whether files may be run. -/
def chmod (request : Request) : Effect :=
  match request.arguments with
  | [] => request.failing 1 ("missing operand" ++ request.hint)
  | [mode] =>
    let quoted := quotedText mode
    request.failing 1 ("missing operand after " ++ quoted ++ request.hint)
  | mode :: operands =>
    changing request operands fun directory path =>
      match directory.locate path, modeExecutable? (Bytes.toStringLossy mode) with
      | .ok (.found place (.file content _)), some executable =>
        .ok (directory.put place (.file content executable))
      | .ok (.found ..), _ => .ok directory
      | .ok (.missing _), _ =>
        .error ("cannot access " ++ quotedName path ++ ": " ++ FileFault.notFound.reason)
      | .error fault, _ =>
        .error ("cannot access " ++ quotedName path ++ ": " ++ fault.reason)

/-- A name without an ending, unless it is nothing else. -/
def withoutEnding (ending name : String) : String :=
  if name.endsWith ending ∧ name ≠ ending then
    String.ofList (name.toList.take (name.length - ending.length))
  else name

/-- Prints the last parts of paths, without an ending if one is given. -/
def basename (request : Request) : Effect :=
  let rules := [OptionRule.plain 'a' "multiple", .valued 's' "suffix", .plain 'z' "zero"]
  request.reading rules false 1 fun given =>
    let ended := if given.has "zero" then [0] else [10]
    let print (ending : Bytes) (paths : List Bytes) : Effect :=
      request.printing (paths.flatMap fun path =>
        let name := lastPart (Bytes.toStringLossy path)
        Bytes.ofString (withoutEnding (Bytes.toStringLossy ending) name) ++ ended)
    match given.value? "suffix", given.operands with
    | _, [] => request.failing 1 ("missing operand" ++ request.hint)
    | some ending, operands => print ending operands
    | none, operands =>
      if given.has "multiple" then print [] operands
      else match operands with
        | [path, ending] => print ending [path]
        | _ :: _ :: extra :: _ => request.tooMany extra
        | operands => print [] operands

/-- A path without its last part. -/
def pathAbove (path : String) : String :=
  let trimmed := (path.toList.reverse.dropWhile (· == '/')).reverse
  let above := (trimmed.reverse.dropWhile (· != '/')).dropWhile (· == '/')
  let folder := String.ofList above.reverse
  if folder ≠ "" then folder else if path.startsWith "/" then "/" else "."

/-- Prints paths without their last parts. -/
def dirname (request : Request) : Effect :=
  request.reading [.plain 'z' "zero"] false 1 fun given =>
    let ended := if given.has "zero" then [0] else [10]
    if given.operands.isEmpty then request.failing 1 ("missing operand" ++ request.hint)
    else request.printing (given.operands.flatMap fun path =>
      Bytes.ofString (pathAbove (Bytes.toStringLossy path)) ++ ended)

/-- The options of the utility that lists directories. -/
def lsOptions : List OptionRule :=
  [.plain '1' "one-column", .plain 'a' "all", .plain 'A' "almost-all", .plain 'd' "directory",
    .plain 'r' "reverse", .plain 'F' "classify", .plain 'p' "p"]

/-- The lines that a listing of names consists of. Hidden names are left out unless options ask for
them. -/
def listing (given : Given) (names : List String) : List String :=
  let all := given.has "all"
  let kept := names.filter fun name =>
    all || given.has "almost-all" || !name.startsWith "."
  let listed := (if all then [".", ".."] else []) ++ kept
  if given.has "reverse" then listed.reverse else listed

/-- Lists files, and what is in directories. Several of them get headings. -/
def ls (request : Request) : Effect :=
  request.reading lsOptions true 2 fun given =>
    let paths := if given.operands.isEmpty then ["."] else given.operands.map Bytes.toStringLossy
    let found := paths.map fun path => (path, request.directory.locate path)
    let errors := found.filterMap fun (path, target) =>
      let report (fault : FileFault) : Option (Nat × Bytes) :=
        some (2, request.message ("cannot access " ++ quotedName path ++ ": " ++ fault.reason))
      match target with
      | .ok (.found ..) => none
      | .ok (.missing _) => report .notFound
      | .error fault => report fault
    let isListed (target : Except FileFault Directory.Target) : Bool :=
      (target matches .ok (.found _ .folder)) && !given.has "directory"
    let inOrder (names : List String) : List String :=
      if given.has "reverse" then names.mergeSort.reverse else names.mergeSort
    let files := inOrder (found.filterMap fun (path, target) =>
      if (target matches .ok (.found ..)) && !isListed target then some path else none)
    let folders := inOrder (found.filterMap fun (path, target) =>
      if isListed target then some path else none)
    let namesAt (path : String) : List String :=
      match request.directory.locate path with
      | .ok (.found place _) => listing given (request.directory.namesIn place)
      | _ => []
    let lines (names : List String) : String := String.join (names.map (· ++ "\n"))
    let parts := folders.map fun path =>
      (if 1 < paths.length then path ++ ":\n" else "") ++ lines (namesAt path)
    let parts := if files.isEmpty then parts else lines files :: parts
    let output := Bytes.ofString ("\n".intercalate parts)
    ⟨errors ++ [(1, output)], if errors.isEmpty then 0 else 2, request.input, request.directory⟩

end SyntaxFold.Sandbox.Utility
