import SyntaxFold.Sandbox.Utility.Arguments
import SyntaxFold.Sandbox.Utility.RegexReader

/-!
# Selecting

The utilities that print a part of their input, or say something about it: the first and the last
lines, columns, and counts.
-/

namespace SyntaxFold.Sandbox.Utility

/-- The number that an argument spells. -/
def naturalOf? (argument : Bytes) : Option Nat :=
  match readNumber argument with
  | (some number, []) => some number
  | _ => none

/-- How much is selected. -/
inductive Amount where
  | first (count : Nat)
  | allButLast (count : Nat)
  | last (count : Nat)
  /-- All from the item with the given number on. -/
  | fromItem (number : Nat)

/-- Selects items. -/
def Amount.select {α : Type} (amount : Amount) (items : List α) : List α :=
  match amount with
  | first count => items.take count
  | allButLast count => items.take (items.length - count)
  | last count => items.drop (items.length - count)
  | fromItem number => items.drop (number - 1)

/-- What a unit behind a number stands for. -/
def unitSize? (unit : String) : Option Nat :=
  match unit with
  | "" => some 1
  | "b" => some 512
  | "k" | "K" | "KiB" => some 1024
  | "kB" | "KB" => some 1000
  | "M" | "MiB" | "m" => some 1048576
  | "MB" => some 1000000
  | "G" | "GiB" => some 1073741824
  | "GB" => some 1000000000
  | _ => none

/-- How many lines or bytes a utility is to print. -/
structure Count where
  ofBytes : Bool
  /-- A sign in front of the number. -/
  sign : Option UInt8
  digits : Bytes

/-- The number of a count, with its unit. -/
def Count.number? (count : Count) : Option Nat :=
  match readNumber count.digits with
  | (some number, rest) => (unitSize? (Bytes.toStringLossy rest)).map (number * ·)
  | (none, _) => none

/-- Takes the sign of a count off. -/
def Count.ofValue (ofBytes : Bool) : Bytes → Count
  | 45 :: digits => ⟨ofBytes, some 45, digits⟩
  | 43 :: digits => ⟨ofBytes, some 43, digits⟩
  | digits => ⟨ofBytes, none, digits⟩

/-- Arguments in which a count without a letter has got the name of its option. The sign in front of
the count is kept if it says so. -/
def withCountName (sign : UInt8) (keepsSign : Bool) : List Bytes → List Bytes
  | (first :: digit :: rest) :: others =>
    if first = sign ∧ 48 ≤ digit ∧ digit ≤ 57 then
      let isDigit (byte : UInt8) : Bool := 48 ≤ byte && byte ≤ 57
      let digits := digit :: rest.takeWhile isDigit
      let value := if keepsSign then sign :: digits else digits
      match rest.dropWhile isDigit with
      | [] => Bytes.ofString "-n" :: value :: others
      | [99] => Bytes.ofString "-c" :: value :: others
      | [113] => Bytes.ofString "-qn" :: value :: others
      | _ => (first :: digit :: rest) :: others
    else (first :: digit :: rest) :: others
  | arguments => arguments

/-- Selects bytes or lines of what the operands name; several of them get headings. -/
def selectPart (request : Request) (given : Given) (ofBytes : Bool) (amount : Amount) : Effect :=
  let select (text : Bytes) : Bytes :=
    if ofBytes then amount.select text else ofLines (amount.select (linesOf text.length text))
  let sources := request.sources given.operands
  let headed :=
    !given.has "quiet" && (1 < sources.found.length || given.has "verbose")
  let title (isFirst : Bool) (name : String) : Bytes :=
    let name := if name = "-" then "standard input" else name
    let text := (if isFirst then "" else "\n") ++ "==> " ++ name ++ " <==\n"
    if headed then Bytes.ofString text else []
  let add (state : List (Nat × Bytes) × Bool) (source : String × Except FileFault Bytes) :
      List (Nat × Bytes) × Bool :=
    match source with
    | (name, .ok text) => (state.1 ++ [(1, title state.2 name ++ select text)], false)
    | (name, .error fault) =>
      let message := "cannot open " ++ quotedName name ++ " for reading: " ++ fault.reason
      (state.1 ++ [(2, request.message message)], state.2)
  let (written, _) := sources.found.foldl add ([], true)
  let failed := sources.found.any fun (_, found) => found matches .error _
  ⟨written, if failed then 1 else 0, sources.input, request.directory⟩

/-- The options of the utilities that print the first or the last part. -/
def partOptions : List OptionRule :=
  [.valued 'n' "lines", .valued 'c' "bytes", .plain 'q' "quiet",
    .plain 'v' "verbose", .plain 'z' "zero-terminated"]

/-- Prints the part of its input that a count stands for. -/
def printPart (request : Request) (amount : Option UInt8 → Nat → Amount) : Effect :=
  request.taking partOptions fun given =>
    let count : Count := match given.lastOf? ["lines", "bytes"] with
      | none => ⟨false, none, [49, 48]⟩
      | some (name, value) => Count.ofValue (name == "bytes") value
    match count.number? with
    | some number => selectPart request given count.ofBytes (amount count.sign number)
    | none =>
      let unit := if count.ofBytes then "bytes" else "lines"
      request.failing 1 ("invalid number of " ++ unit ++ ": " ++
        quotedText count.digits)

/-- Prints the first lines. -/
def head (request : Request) : Effect :=
  let request := { request with arguments := withCountName 45 false request.arguments }
  printPart request fun sign count =>
    if sign = some 45 then .allButLast count else .first count

/-- Prints the last lines. -/
def tail (request : Request) : Effect :=
  let arguments := withCountName 45 false request.arguments
  let arguments :=
    if request.arguments.length ≤ 2 then withCountName 43 true arguments else arguments
  printPart { request with arguments } fun sign count =>
    if sign = some 43 then .fromItem count else .last count

/-- Whether a byte separates words. -/
def separatesWords (byte : UInt8) : Bool := byte == 32 || (9 ≤ byte && byte ≤ 13)

/-- How many words a text has. -/
def wordCount (text : Bytes) : Nat :=
  (text.foldl (fun (state : Nat × Bool) byte =>
    let blank := separatesWords byte
    (if state.2 && !blank then state.1 + 1 else state.1, blank)) (0, true)).1

/-- How wide the widest line of a text is. A tab reaches to the next multiple of eight, and only
what can be printed has a width. -/
def widestLine (text : Bytes) : Nat :=
  let widths := (linesOf text.length text).map fun (line, _) =>
    (line.foldl (fun (width, widest) byte =>
      let width :=
        if byte = 9 then width + 8 - width % 8
        else if byte = 13 ∨ byte = 12 then 0
        else if 32 ≤ byte ∧ byte ≤ 126 then width + 1
        else width
      (width, max widest width)) (0, 0)).2
  widths.foldl max 0

/-- The options of the utility that counts. -/
def countOptions : List OptionRule :=
  [.plain 'l' "lines", .plain 'w' "words", .plain 'm' "chars", .plain 'c' "bytes",
    .plain 'L' "max-line-length"]

/-- The counts of a text that options ask for: lines, words, characters, bytes, and the widest
line. -/
def countsOf (names : List String) (text : Bytes) : List Nat :=
  let names := if names.isEmpty then ["lines", "words", "bytes"] else names
  let counts := [("lines", text.count 10), ("words", wordCount text), ("chars", text.length),
    ("bytes", text.length), ("max-line-length", widestLine text)]
  (counts.filter fun count => names.contains count.1).map Prod.snd

/-- The counts of several texts together. -/
def totalOf (names : List String) (texts : List Bytes) : List Nat :=
  let all := texts.map fun text => (names, text)
  let counts := countsOf names texts.flatten
  if names.contains "max-line-length" then
    counts.dropLast ++ [(all.map fun (_, text) => widestLine text).foldl max 0]
  else counts

/-- Counts lines, words and bytes. A single count stands alone; several are put into columns. -/
def wc (request : Request) : Effect :=
  request.taking countOptions fun given =>
    let names := given.options.map Prod.fst
    let sources := request.sources given.operands
    let texts := sources.found.filterMap fun (_, found) => found.toOption
    let width :=
      if names.eraseDups.length = 1 ∧ sources.found.length = 1 then 1
      else if sources.found.any fun (name, _) => name == "-" then 7
      else texts.flatten.length.repr.length
    let line (counts : List Nat) (name : String) : Bytes :=
      let texts := counts.map fun count =>
        String.ofList (List.replicate (width - count.repr.length) ' ') ++ count.repr
      Bytes.ofString (" ".intercalate (texts ++ (if name = "" then [] else [name])) ++ "\n")
    let written := sources.found.map fun (name, found) =>
      match found with
      | .ok text =>
        (1, line (countsOf names text) (if given.operands.isEmpty then "" else shownName name))
      | .error fault => (2, request.message (shownName name ++ ": " ++ fault.reason))
    let summary :=
      if 1 < sources.found.length then [(1, line (totalOf names texts) "total")] else []
    let failed := sources.found.any fun (_, found) => found matches .error _
    ⟨written ++ summary, if failed then 1 else 0, sources.input, request.directory⟩

/-- A range of columns: its first one, and its last one if there is one. -/
abbrev Columns := List (Nat × Option Nat)

/-- Whether a column lies in one of the ranges. -/
def Columns.has (columns : Columns) (column : Nat) : Bool :=
  columns.any fun range => range.1 ≤ column && range.2.all fun last => column ≤ last

/-- What is wrong with a list of columns. -/
inductive ColumnFault where
  | zero
  | twoDashes
  | noEnd
  | decreasing
  | unreadable (rest : Bytes)
  deriving DecidableEq, Repr

/-- The text of a fault. Fields are named otherwise than the columns of bytes. -/
def ColumnFault.message (ofFields : Bool) : ColumnFault → String
  | zero =>
    (if ofFields then "fields" else "byte/character positions") ++ " are numbered from 1"
  | twoDashes => if ofFields then "invalid field range" else "invalid byte or character range"
  | noEnd => "invalid range with no endpoint: -"
  | decreasing => "invalid decreasing range"
  | unreadable rest =>
    (if ofFields then "invalid field value " else "invalid byte/character position ") ++
      quotedText rest

/-- The range between the ends that are given, behind a dash or without one. -/
def closeRange (dashed : Bool) (first last : Option Nat) : Except ColumnFault (Nat × Option Nat) :=
  match dashed, first, last with
  | false, some number, _ => if number = 0 then .error .zero else .ok (number, some number)
  | false, none, _ => .error .zero
  | true, none, none => .error .noEnd
  | true, first, none => .ok (first.getD 1, none)
  | true, first, some last =>
    if last < first.getD 1 then .error .decreasing else .ok (first.getD 1, some last)

/-- Reads a list of columns: numbers and ranges, with commas or blanks between them. -/
def readColumns (dashed : Bool) (first last : Option Nat) : Bytes → Except ColumnFault Columns
  | [] => do return [← closeRange dashed first last]
  | byte :: rest =>
    let digit := byte.toNat - 48
    if byte = 45 then
      if dashed then .error .twoDashes
      else if first = some 0 then .error .zero
      else readColumns true first none rest
    else if byte = 44 ∨ isBlankByte byte then do
      let range ← closeRange dashed first last
      return range :: (← readColumns false none none rest)
    else if 48 ≤ byte ∧ byte ≤ 57 then
      if dashed then readColumns true first (some (10 * last.getD 0 + digit)) rest
      else readColumns false (some (10 * first.getD 0 + digit)) none rest
    else .error (.unreadable (byte :: rest))

/-- Splits a text at a byte. -/
def splitAtByte (mark : UInt8) (text : Bytes) : List Bytes :=
  text.foldr (fun byte parts =>
    if byte = mark then [] :: parts
    else match parts with
      | part :: others => (byte :: part) :: others
      | [] => [[byte]]) [[]]

/-- Numbers items from one on. -/
def numbered {α : Type} (items : List α) : List (α × Nat) :=
  items.zipIdx.map fun (item, index) => (item, index + 1)

/-- The options of the utility that prints columns. -/
def cutOptions : List OptionRule :=
  [.valued 'b' "bytes", .valued 'c' "characters", .valued 'f' "fields", .valued 'd' "delimiter",
    .plain 's' "only-delimited", .plain 'n' "n", ⟨none, "complement", .none⟩,
    ⟨none, "output-delimiter", .required⟩]

/-- How columns of a line are printed. -/
structure Cutting where
  columns : Columns
  ofFields : Bool
  mark : UInt8
  /-- What is printed between columns. -/
  joint : Option Bytes
  /-- Whether lines without the mark are left out. -/
  onlyMarked : Bool
  /-- Whether the columns that are not listed are printed. -/
  complement : Bool

/-- What of a line is printed, if anything is. -/
def Cutting.line? (cutting : Cutting) (line : Bytes) : Option Bytes :=
  let kept {α : Type} (items : List α) : List (α × Nat) :=
    (numbered items).filter fun item => Columns.has cutting.columns item.2 != cutting.complement
  if !cutting.ofFields then
    some ((kept line).foldl (fun (text, last) (byte, column) =>
      let joint := if last = 0 ∨ last + 1 = column then [] else cutting.joint.getD []
      (text ++ joint ++ [byte], column)) ([], 0)).1
  else if line.contains cutting.mark then
    let fields := (kept (splitAtByte cutting.mark line)).map Prod.fst
    some (List.intercalate (cutting.joint.getD [cutting.mark]) fields)
  else if cutting.onlyMarked then none
  else some line

/-- Prints columns of lines, by bytes or by fields. -/
def cut (request : Request) : Effect :=
  request.taking cutOptions fun given =>
    let refuse (message : String) : Effect := request.failing 1 (message ++ request.hint)
    let lists := given.options.filter fun option =>
      ["bytes", "characters", "fields"].contains option.1
    let badMark := (given.values "delimiter").any fun mark => 1 < mark.length
    if badMark then refuse "the delimiter must be a single character"
    else match lists with
    | [] => refuse "you must specify a list of bytes, characters, or fields"
    | _ :: _ :: _ => refuse "only one list may be specified"
    | [(kind, list)] =>
      let ofFields := kind == "fields"
      let mark := given.value? "delimiter"
      if !ofFields ∧ mark.isSome then
        refuse "an input delimiter may be specified only when operating on fields"
      else if !ofFields ∧ given.has "only-delimited" then
        refuse ("suppressing non-delimited lines makes sense\n\tonly when operating on fields")
      else match readColumns false none none list with
        | .error fault => refuse (fault.message ofFields)
        | .ok columns =>
          let cutting : Cutting :=
            { columns := columns
              ofFields := ofFields
              mark := match mark with
                | some mark => mark.headD 0
                | none => 9
              joint := given.value? "output-delimiter"
              onlyMarked := given.has "only-delimited"
              complement := given.has "complement" }
          request.each given.operands shownName fun text =>
            endedLines ((linesOf text.length text).filterMap fun (text, _) => cutting.line? text)

/-- Prints lines from the last to the first. -/
def tac (request : Request) : Effect :=
  let rules := [OptionRule.plain 'b' "before", .plain 'r' "regex", .valued 's' "separator"]
  request.taking rules fun given =>
    request.each given.operands (fun name => "failed to open " ++ quotedName name ++
      " for reading") fun text => ofLines (linesOf text.length text).reverse

/-- Prints every line backwards. -/
def rev (request : Request) : Effect :=
  request.taking [] fun given =>
    request.each given.operands (fun name => "cannot open " ++ name) fun text =>
      ofLines ((linesOf text.length text).map fun (line, ended) => (line.reverse, ended))

end SyntaxFold.Sandbox.Utility
