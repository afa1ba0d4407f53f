import SyntaxFold.Sandbox.Utility.Selecting

/-!
# Sorting

The utilities that put lines in order and that drop repeated ones. Lines are compared by keys, which
are parts of them. Where all keys are the same, the whole lines are compared, unless the order of
the input is to be kept.
-/

namespace SyntaxFold.Sandbox.Utility

/-- Compares bytes one by one. What is shorter comes first. -/
def compareBytes : Bytes → Bytes → Ordering
  | [], [] => .eq
  | [], _ :: _ => .lt
  | _ :: _, [] => .gt
  | first :: rest, second :: others =>
    if first < second then .lt else if second < first then .gt else compareBytes rest others

/-- The number at the start of a text: whether it is negative, its whole part, and the digits behind
its point. -/
structure LeadingNumber where
  negative : Bool
  whole : Nat
  places : Bytes

namespace LeadingNumber

/-- The number at the start of a text, which is zero if there is none. -/
def ofBytes (text : Bytes) : LeadingNumber :=
  let (negative, digits) := match text.dropWhile isBlankByte with
    | 45 :: rest => (true, rest)
    | rest => (false, rest)
  let (whole, rest) := readNumber digits
  let places := match rest with
    | 46 :: rest => rest.takeWhile fun byte => 48 ≤ byte && byte ≤ 57
    | _ => []
  ⟨negative, whole.getD 0, (places.reverse.dropWhile (· == 48)).reverse⟩

/-- Compares numbers without their signs. -/
def compareSizes (left right : LeadingNumber) : Ordering :=
  (compare left.whole right.whole).then (compareBytes left.places right.places)

/-- Whether a number is below zero. -/
def isBelowZero (number : LeadingNumber) : Bool :=
  number.negative && (number.whole != 0 || !number.places.isEmpty)

/-- Compares numbers. -/
def compare (left right : LeadingNumber) : Ordering :=
  match left.isBelowZero, right.isBelowZero with
  | true, true => right.compareSizes left
  | true, false => .lt
  | false, true => .gt
  | false, false => left.compareSizes right

end LeadingNumber

/-- How keys are compared. -/
structure KeyOrder where
  skipsBlanks : Bool
  skipsLastBlanks : Bool
  /-- Whether only blanks, letters and digits count. -/
  byWords : Bool
  ignoresCase : Bool
  numeric : Bool
  reversed : Bool
  deriving DecidableEq, Repr

namespace KeyOrder

/-- The order of bytes. -/
def plain : KeyOrder := ⟨false, false, false, false, false, false⟩

/-- The order with what a letter says added; `none` if it says nothing. -/
def adding? (order : KeyOrder) (atStart : Bool) : Char → Option KeyOrder
  | 'b' => some (if atStart then { order with skipsBlanks := true }
      else { order with skipsLastBlanks := true })
  | 'd' => some { order with byWords := true }
  | 'f' => some { order with ignoresCase := true }
  | 'n' => some { order with numeric := true }
  | 'r' => some { order with reversed := true }
  | _ => none

/-- What of a key counts. -/
def counted (order : KeyOrder) (key : Bytes) : Bytes :=
  let key :=
    if order.byWords then
      key.filter fun byte => isBlankByte byte || (Char.ofNat byte.toNat).isAlphanum
    else key
  if order.ignoresCase then
    key.map fun byte => if 97 ≤ byte ∧ byte ≤ 122 then byte - 32 else byte
  else key

/-- Compares keys. -/
def compare (order : KeyOrder) (left right : Bytes) : Ordering :=
  let found :=
    if order.numeric then
      (LeadingNumber.ofBytes left).compare (LeadingNumber.ofBytes right)
    else compareBytes (order.counted left) (order.counted right)
  if order.reversed then found.swap else found

end KeyOrder

/-- A part of a line. -/
structure SortKey where
  /-- How many fields, and then bytes, are passed over. -/
  fields : Nat
  offset : Nat
  /-- The number of the last field, and how many of its bytes belong to the key; none means all of
  them. -/
  last : Option (Nat × Nat)
  /-- The order, if the key has one of its own. -/
  order : KeyOrder
  deriving DecidableEq, Repr

namespace SortKey

/-- Drops a field: what is before the next mark, or blanks and what follows them. -/
def dropField (mark : Option UInt8) (line : Bytes) : Bytes :=
  match mark with
  | some mark => line.dropWhile (· != mark)
  | none => (line.dropWhile isBlankByte).dropWhile (!isBlankByte ·)

/-- Drops fields with the marks behind them. -/
def dropFields (mark : Option UInt8) : (fields : Nat) → Bytes → Bytes
  | 0, line => line
  | fields + 1, line =>
    let rest := dropField mark line
    dropFields mark fields (if mark.isSome then rest.drop 1 else rest)

/-- How far the key may reach into a line. -/
def reach (key : SortKey) (mark : Option UInt8) (line : Bytes) : Nat :=
  match key.last with
  | none => line.length
  | some (number, 0) =>
    line.length - (dropField mark (dropFields mark (number - 1) line)).length
  | some (number, offset) =>
    let rest := dropFields mark (number - 1) line
    let rest := if key.order.skipsLastBlanks then rest.dropWhile isBlankByte else rest
    line.length - rest.length + min offset rest.length

/-- The part of a line that is the key. -/
def ofLine (key : SortKey) (mark : Option UInt8) (line : Bytes) : Bytes :=
  let rest := dropFields mark key.fields line
  let rest := if key.order.skipsBlanks then rest.dropWhile isBlankByte else rest
  let rest := rest.drop key.offset
  rest.take (key.reach mark line - (line.length - rest.length))

/-- Reads a count in the text of a key. -/
def readCount (place : String) (text : Bytes) : Except String (Nat × Bytes) :=
  match readNumber text with
  | (some count, rest) => .ok (count, rest)
  | (none, _) =>
    .error ("invalid number " ++ place ++ ": invalid count at start of " ++
      quotedText text)

/-- Reads the letters behind a position. -/
def readOrder (atStart : Bool) (order : KeyOrder) : Bytes → KeyOrder × Bytes
  | [] => (order, [])
  | byte :: rest =>
    match order.adding? atStart (Char.ofNat byte.toNat) with
    | some order => readOrder atStart order rest
    | none => (order, byte :: rest)

/-- Reads the text of a key. -/
def ofBytes? (text : Bytes) : Except String SortKey := do
  let refuse {α : Type} (reason : String) : Except String α :=
    .error (reason ++ ": invalid field specification " ++ quotedText text)
  let (field, rest) ← readCount "at field start" text
  if field = 0 then refuse "field number is zero"
  let (offset, rest) ← match rest with
    | 46 :: rest => readCount "after '.'" rest
    | rest => pure (1, rest)
  if offset = 0 then refuse "character offset is zero"
  let (order, rest) := readOrder true .plain rest
  match rest with
  | [] => return ⟨field - 1, offset - 1, none, order⟩
  | 44 :: rest =>
    let (number, rest) ← readCount "after ','" rest
    if number = 0 then refuse "field number is zero"
    let (count, rest) ← match rest with
      | 46 :: rest => readCount "after '.'" rest
      | rest => pure (0, rest)
    let (order, rest) := readOrder false order rest
    if rest.isEmpty then return ⟨field - 1, offset - 1, some (number, count), order⟩
    else refuse "stray character in field spec"
  | _ => refuse "stray character in field spec"

end SortKey

/-- How lines are put in order. -/
structure LineOrder where
  mark : Option UInt8
  keys : List SortKey
  /-- Whether whole lines are compared where all keys are the same. -/
  wholeLast : Bool
  /-- Whether the order of whole lines is reversed. -/
  reversed : Bool

namespace LineOrder

/-- Compares lines by their keys. -/
def compareKeys (order : LineOrder) (left right : Bytes) : Ordering :=
  order.keys.foldl (fun found key =>
    found.then (key.order.compare (key.ofLine order.mark left) (key.ofLine order.mark right))) .eq

/-- Compares lines. -/
def compare (order : LineOrder) (left right : Bytes) : Ordering :=
  let whole :=
    if !order.wholeLast then .eq
    else if order.reversed then compareBytes right left
    else compareBytes left right
  (order.compareKeys left right).then whole

/-- The lines in order. -/
def sorted (order : LineOrder) (lines : List Bytes) : List Bytes :=
  lines.mergeSort fun left right => order.compare left right != .gt

/-- The first one of lines that follow each other with the same keys. -/
def distinct (order : LineOrder) : List Bytes → List Bytes
  | [] => []
  | line :: lines =>
    line :: match distinct order lines with
      | next :: others =>
        if order.compareKeys line next == .eq then others else next :: others
      | [] => []

/-- The first line that does not belong behind the one before, with its number. -/
def firstDisorder? (order : LineOrder) (distinct : Bool) : (number : Nat) → List Bytes →
    Option (Nat × Bytes)
  | number, line :: next :: lines =>
    let found := if distinct then order.compareKeys line next else order.compare line next
    if found = .gt ∨ (distinct ∧ found = .eq) then some (number + 1, next)
    else firstDisorder? order distinct (number + 1) (next :: lines)
  | _, _ => none

end LineOrder

/-- The options of the utility that puts lines in order. -/
def sortOptions : List OptionRule :=
  [.plain 'b' "ignore-leading-blanks", .plain 'd' "dictionary-order", .plain 'f' "ignore-case",
    .plain 'n' "numeric-sort", .plain 'r' "reverse", .plain 'c' "check", .plain 'C' "check-quietly",
    .valued 'k' "key", .plain 'm' "merge", .valued 'o' "output", .plain 's' "stable",
    .valued 't' "field-separator", .plain 'u' "unique", .plain 'z' "zero-terminated"]

/-- The order that options ask for. -/
def lineOrder (given : Given) : Except String LineOrder := do
  let mark ← match given.value? "field-separator" with
    | none => pure none
    | some [] => throw "empty tab"
    | some [byte] => pure (some byte)
    | some [92, 48] => pure (some 0)
    | some text =>
      throw ("multi-character tab " ++ quotedText text)
  let blanks := given.has "ignore-leading-blanks"
  let shared : KeyOrder :=
    { skipsBlanks := blanks
      skipsLastBlanks := blanks
      byWords := given.has "dictionary-order"
      ignoresCase := given.has "ignore-case"
      numeric := given.has "numeric-sort"
      reversed := given.has "reverse" }
  let keys ← (given.values "key").mapM SortKey.ofBytes?
  let keys := keys.map fun key =>
    if key.order = .plain then { key with order := shared } else key
  return {
    mark := mark
    keys := if keys.isEmpty then [⟨0, 0, none, shared⟩] else keys
    wholeLast := !given.has "stable" && !given.has "unique"
    reversed := given.has "reverse" }

/-- Says whether the lines of a text are in order. -/
def checkOrder (request : Request) (given : Given) (order : LineOrder) : Effect :=
  let sources := request.sources given.operands
  match given.operands, sources.found with
  | _ :: extra :: _, _ =>
    request.failing 2 ("extra operand " ++ quotedText extra ++
      " not allowed with -c")
  | _, (name, .error fault) :: _ =>
    request.failing 2 ("open failed: " ++ shownName name ++ ": " ++ fault.reason)
  | _, (name, .ok text) :: _ =>
    let lines := (linesOf text.length text).map Prod.fst
    match order.firstDisorder? (given.has "unique") 1 lines with
    | none => { request.ending 0 with input := sources.input }
    | some (number, line) =>
      let place := name ++ ":" ++ number.repr ++ ": disorder: " ++ Bytes.toStringLossy line
      let failed := request.failing 1 place
      { failed with
        written := if given.has "check" then failed.written else []
        input := sources.input }
  | _, [] => request.ending 0

/-- Prints lines in order, or puts them into a file. -/
def sort (request : Request) : Effect :=
  request.reading sortOptions true 2 fun given =>
    match lineOrder given with
    | .error message => request.failing 2 message
    | .ok order =>
      if given.has "check" || given.has "check-quietly" then checkOrder request given order
      else
        let describe (name : String) : String := "cannot read: " ++ shownName name
        let effect := request.together given.operands describe fun text =>
          let sorted := order.sorted ((linesOf text.length text).map Prod.fst)
          endedLines (if given.has "unique" then order.distinct sorted else sorted)
        if effect.status ≠ 0 then
          { effect with written := effect.written.filter (·.1 != 1), status := 2 }
        else match given.value? "output" with
          | none => effect
          | some path =>
            let path := Bytes.toStringLossy path
            let sorted := (effect.written.filter (·.1 == 1)).flatMap Prod.snd
            match effect.directory.writeContent path (.ofBytes sorted) with
            | .ok directory => { effect with directory, written := [] }
            | .error fault =>
              request.failing 2 ("open failed: " ++ shownName path ++ ": " ++ fault.reason)

/-- What of a line is compared with the next one. -/
structure LineView where
  fields : Nat
  offset : Nat
  count : Option Nat
  ignoresCase : Bool

/-- The part of a line that is compared. -/
def LineView.ofLine (view : LineView) (line : Bytes) : Bytes :=
  let part := (SortKey.dropFields none view.fields line).drop view.offset
  let part := match view.count with
    | some count => part.take count
    | none => part
  ({ KeyOrder.plain with ignoresCase := view.ignoresCase }).counted part

/-- Groups lines that follow each other and look the same, with their numbers. -/
def runsOf (view : LineView) : List Bytes → List (Bytes × Nat)
  | [] => []
  | line :: lines =>
    match runsOf view lines with
    | (next, count) :: others =>
      if view.ofLine line = view.ofLine next then (line, count + 1) :: others
      else (line, 1) :: (next, count) :: others
    | [] => [(line, 1)]

/-- The options of the utility that drops repeated lines. -/
def uniqOptions : List OptionRule :=
  [.plain 'c' "count", .plain 'd' "repeated", .plain 'i' "ignore-case", .plain 'u' "unique",
    .valued 'f' "skip-fields", .valued 's' "skip-chars", .valued 'w' "check-chars"]

/-- Prints lines that follow each other and look the same only once. -/
def uniq (request : Request) : Effect :=
  request.taking uniqOptions fun given =>
    let number? (name : String) : Option Nat := (given.value? name).bind naturalOf?
    let view : LineView :=
      { fields := (number? "skip-fields").getD 0
        offset := (number? "skip-chars").getD 0
        count := number? "check-chars"
        ignoresCase := given.has "ignore-case" }
    let print (text : Bytes) : Bytes :=
      let runs := runsOf view ((linesOf text.length text).map Prod.fst)
      let runs := runs.filter fun run =>
        (!given.has "repeated" || 1 < run.2) && (!given.has "unique" || run.2 == 1)
      endedLines (runs.map fun (line, count) =>
        if given.has "count" then
          let digits := count.repr
          let fill := String.ofList (List.replicate (7 - digits.length) ' ')
          Bytes.ofString (fill ++ digits ++ " ") ++ line
        else line)
    match given.operands with
    | _ :: _ :: extra :: _ => request.tooMany extra
    | [source, target] =>
      let effect := request.each [source] shownName print
      let path := Bytes.toStringLossy target
      let output := (effect.written.filter (·.1 == 1)).flatMap Prod.snd
      if effect.status ≠ 0 then effect
      else match effect.directory.writeContent path (.ofBytes output) with
        | .ok directory => { effect with directory, written := [] }
        | .error fault => request.failing 1 (shownName path ++ ": " ++ fault.reason)
    | operands => request.each operands shownName print

end SyntaxFold.Sandbox.Utility
