import SyntaxFold.Sandbox.Utility.Selecting

/-!
# Searching

The utility that searches texts for lines that match an expression. It prints the lines, parts of
them, how many there are, or only the names of the texts, and its status says whether there are any.
-/

namespace SyntaxFold.Sandbox.Utility

/-- What lines are picked by. -/
structure Picking where
  regex : Regex
  ignoreCase : Bool
  /-- Whether lines that do not match are picked. -/
  inverted : Bool
  /-- Whether the whole line must match. -/
  whole : Bool

/-- Whether a line is picked. -/
def Picking.picks (picking : Picking) (line : Bytes) : Bool :=
  let regex : Regex :=
    if picking.whole then .sequence .start (.sequence picking.regex .finish) else picking.regex
  (regex.findIn picking.ignoreCase line).isSome != picking.inverted

/-- The expression of the lines of a text, of which any one may match. -/
def readPatterns (fixed extended : Bool) (text : Bytes) : Except RegexFault Regex := do
  let one (line : Bytes) : Except RegexFault Regex :=
    if fixed then .ok (Regex.ofText line) else Regex.read ⟨extended, true⟩ line
  let alternatives ← (splitAtByte 10 text).mapM one
  match alternatives with
  | [] => return .empty
  | first :: others => return others.foldl Regex.either first

/-- The options of the utility that searches. -/
def grepOptions : List OptionRule :=
  [.valued 'e' "regexp", .valued 'f' "file", .plain 'E' "extended-regexp",
    .plain 'F' "fixed-strings", .plain 'G' "basic-regexp", .plain 'i' "ignore-case",
    .plain 'y' "ignore-case", .plain 'v' "invert-match", .plain 'w' "word-regexp",
    .plain 'x' "line-regexp", .plain 'c' "count", .plain 'L' "files-without-match",
    .plain 'l' "files-with-matches", .valued 'm' "max-count", .plain 'o' "only-matching",
    .plain 'q' "quiet", .plain 's' "no-messages", .plain 'b' "byte-offset",
    .plain 'H' "with-filename", .plain 'h' "no-filename", .plain 'n' "line-number",
    .valued 'A' "after-context", .valued 'B' "before-context", .valued 'C' "context",
    .plain 'a' "text"]

/-- A line of a text that is searched, with its number and the place where it begins. -/
structure SearchedLine where
  text : Bytes
  number : Nat
  offset : Nat
  picked : Bool

/-- What is printed of a text, and whether lines of it were picked. -/
structure Search where
  given : Given
  picking : Picking
  /-- Whether the names of files are printed. -/
  titled : Bool

namespace Search

/-- The lines of a text. Only so many of them are picked as an option allows. -/
def lines (search : Search) (text : Bytes) : List SearchedLine :=
  let limit := (search.given.value? "max-count").bind naturalOf?
  let step (state : List SearchedLine × Nat × Nat) (line : Bytes) :
      List SearchedLine × Nat × Nat :=
    let (found, offset, count) := state
    let picked := limit.all (count < ·) && search.picking.picks line
    (⟨line, found.length + 1, offset, picked⟩ :: found, offset + line.length + 1,
      if picked then count + 1 else count)
  (((linesOf text.length text).map Prod.fst).foldl step ([], 0, 0)).1.reverse

/-- Where a line, or a part of it, stands. The mark tells lines that are picked from others. -/
def place (search : Search) (name : String) (line : SearchedLine) (mark : String)
    (within : Nat) : Bytes :=
  Bytes.ofString ((if search.titled then name ++ mark else "") ++
    (if search.given.has "line-number" then line.number.repr ++ mark else "") ++
    (if search.given.has "byte-offset" then (line.offset + within).repr ++ mark else ""))

/-- How many lines before and behind those that are picked are printed too. -/
def context (search : Search) (name : String) : Nat :=
  match search.given.lastOf? [name, "context"] with
  | some (_, value) => (naturalOf? value).getD 0
  | none => 0

/-- The lines that are printed, with marks where lines between them are left out. -/
def withContext (search : Search) (name : String) (lines : List SearchedLine) : Bytes :=
  let before := search.context "before-context"
  let behind := search.context "after-context"
  let picked := (lines.filter (·.picked)).map (·.number)
  let shown := lines.filter fun line =>
    picked.any fun number => line.number ≤ number + behind && number ≤ line.number + before
  let isApart := 0 < before + behind
  (shown.foldl (fun (text, last) line =>
    let gap :=
      if isApart ∧ last ≠ 0 ∧ last + 1 < line.number then Bytes.ofString "--\n" else []
    let mark := if line.picked then ":" else "-"
    (text ++ gap ++ search.place name line mark 0 ++ line.text ++ [10], line.number)) ([], 0)).1

/-- The parts of lines that match. -/
def matchedParts (search : Search) (name : String) (lines : List SearchedLine) : Bytes :=
  (lines.filter (·.picked)).flatMap fun line =>
    let (found, _) := search.picking.regex.findAll search.picking.ignoreCase line.text
    (found.foldl (fun (text, within) part =>
      let start := within + part.before.length
      let shown :=
        if part.found.isEmpty ∨ search.picking.inverted then []
        else search.place name line ":" start ++ part.found ++ [10]
      (text ++ shown, start + part.found.length)) ([], 0)).1

/-- What is printed of a text. -/
def report (search : Search) (name : String) (text : Bytes) : Bytes × Bool :=
  let lines := search.lines text
  let count := (lines.filter (·.picked)).length
  let named (isShown : Bool) : Bytes := if isShown then Bytes.ofString (name ++ "\n") else []
  let title := if search.titled then name ++ ":" else ""
  let output :=
    if search.given.has "quiet" then []
    else if search.given.has "files-without-match" then named (count = 0)
    else if search.given.has "files-with-matches" then named (count ≠ 0)
    else if search.given.has "count" then Bytes.ofString (title ++ count.repr ++ "\n")
    else if search.given.has "only-matching" then search.matchedParts name lines
    else search.withContext name lines
  (output, 0 < count)

end Search

/-- Says how to search. -/
def grepUsage (request : Request) (message : String) : Effect :=
  let usage := message ++ "Usage: grep [OPTION]... PATTERNS [FILE]..." ++ request.hint ++ "\n"
  { request.ending 2 with written := [(2, Bytes.ofString usage)] }

/-- The patterns that are given, joined by line ends, and the operands that are left. -/
def givenPatterns? (request : Request) (given : Given) : Option (Bytes × List Bytes) :=
  let texts := given.options.filterMap fun (name, value) =>
    match name with
    | "regexp" => some value
    | "file" =>
      let content := ((request.directory.content (Bytes.toStringLossy value)).toOption.map
        Content.bytes).getD []
      some (if content.getLast? = some 10 then content.dropLast else content)
    | _ => none
  match texts, given.operands with
  | [], [] => none
  | [], pattern :: operands => some (pattern, operands)
  | texts, operands => some (List.intercalate [10] texts, operands)

/-- Arguments in which a number behind a dash has got the letter of its option. -/
def withContextLetter (argument : Bytes) : Bytes :=
  match argument with
  | 45 :: digit :: digits =>
    if (digit :: digits).all fun byte => 48 ≤ byte && byte ≤ 57 then 45 :: 67 :: digit :: digits
    else argument
  | _ => argument

/-- Results up to the first one in which lines were picked. -/
def upToPicked (results : List (String × Except FileFault (Bytes × Bool))) :
    List (String × Except FileFault (Bytes × Bool)) :=
  let isPicked (result : String × Except FileFault (Bytes × Bool)) : Bool :=
    result.2 matches .ok (_, true)
  results.takeWhile (!isPicked ·) ++ (results.dropWhile (!isPicked ·)).take 1

/-- Prints the lines of what the operands name that match an expression. -/
def searchAll (request : Request) (given : Given) (regex : Regex) (operands : List Bytes) :
    Effect :=
  let regex : Regex :=
    if given.has "word-regexp" then .sequence (.edge .start) (.sequence regex (.edge .finish))
    else regex
  let sources := request.sources operands
  let search : Search :=
    { given := given
      picking := ⟨regex, given.has "ignore-case", given.has "invert-match",
        given.has "line-regexp"⟩
      titled := match given.lastOf? ["with-filename", "no-filename"] with
        | some (name, _) => name == "with-filename"
        | none => 1 < sources.found.length }
  let results := sources.found.map fun (name, found) =>
    let name := if name = "-" then "(standard input)" else name
    (name, found.map (search.report name))
  let quiet := given.has "quiet"
  let results := if quiet then upToPicked results else results
  let written := results.filterMap fun (name, result) =>
    match result with
    | .ok (output, _) => some (1, output)
    | .error fault =>
      if given.has "no-messages" then none
      else some (2, request.message (name ++ ": " ++ fault.reason))
  let failed := results.any fun (_, result) => result matches .error _
  let matched := results.any fun (_, result) => result matches .ok (_, true)
  let status := if matched ∧ (quiet ∨ ¬ failed) then 0 else if failed then 2 else 1
  ⟨written, status, sources.input, request.directory⟩

/-- Prints the lines that match an expression, or says whether there are any. -/
def grep (request : Request) : Effect :=
  match Given.read grepOptions true none (request.arguments.map withContextLetter) with
  | .error message =>
    grepUsage request ((request.announce : Bytes).toStringLossy ++ message ++ "\n")
  | .ok given =>
    match givenPatterns? request given with
    | none => grepUsage request ""
    | some (pattern, operands) =>
      match readPatterns (given.has "fixed-strings") (given.has "extended-regexp") pattern with
      | .error fault => request.failing 2 fault.message
      | .ok regex => searchAll request given regex operands

end SyntaxFold.Sandbox.Utility
