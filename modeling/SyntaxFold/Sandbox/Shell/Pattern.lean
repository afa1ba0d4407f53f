import SyntaxFold.Text.Bytes

/-!
# Patterns

The patterns by which a choice picks its arm, by which values are cut, and by which words stand for
file names. A pattern is read from the bytes of a word, of which only those that were not quoted
are special.
-/

namespace SyntaxFold.Sandbox.Shell

/-- A set of bytes, by ranges that may overlap. -/
abbrev ByteRanges := List (UInt8 × UInt8)

/-- Whether a byte lies in one of the ranges. -/
def ByteRanges.has (ranges : ByteRanges) (byte : UInt8) : Bool :=
  ranges.any fun range => range.1 ≤ byte && byte ≤ range.2

/-- The bytes of a named class. -/
def byteClass? : String → Option ByteRanges
  | "alpha" => some [(65, 90), (97, 122)]
  | "digit" => some [(48, 57)]
  | "alnum" => some [(48, 57), (65, 90), (97, 122)]
  | "upper" => some [(65, 90)]
  | "lower" => some [(97, 122)]
  | "space" => some [(9, 13), (32, 32)]
  | "blank" => some [(9, 9), (32, 32)]
  | "punct" => some [(33, 47), (58, 64), (91, 96), (123, 126)]
  | "xdigit" => some [(48, 57), (65, 70), (97, 102)]
  | "cntrl" => some [(0, 31), (127, 127)]
  | "print" => some [(32, 126)]
  | "graph" => some [(33, 126)]
  | _ => none

/-- A byte of a word, and whether it is special where specials are. -/
structure Cell where
  byte : UInt8
  special : Bool
  deriving DecidableEq, Repr

/-- The bytes of cells. -/
def cellBytes (cells : List Cell) : Bytes := cells.map Cell.byte

/-- A class at the start of cells, behind its opening bracket and colon. -/
def readClass? (cells : List Cell) : Option (ByteRanges × List Cell) :=
  let name : Bytes := (cellBytes cells).takeWhile (· != 58)
  match cells.drop name.length with
  | ⟨58, _⟩ :: ⟨93, _⟩ :: rest => (byteClass? name.toStringLossy).map fun ranges => (ranges, rest)
  | _ => none

/-- Reads the members of a set up to its closing bracket, which cannot come first. The fuel is the
number of cells. -/
def readSet (fuel : Nat) (first : Bool) (cells : List Cell) : Option (ByteRanges × List Cell) :=
  match fuel, cells with
  | 0, _ | _, [] => none
  | fuel + 1, cell :: rest => do
    if cell = ⟨93, true⟩ ∧ ¬ first then return ([], rest)
    let (ranges, rest) := match cell.byte, rest with
      | 91, ⟨58, _⟩ :: behind =>
        match readClass? behind with
        | some found => found
        | none => ([(91, 91)], rest)
      | byte, ⟨45, true⟩ :: last :: behind =>
        if last = ⟨93, true⟩ then ([(byte, byte)], rest) else ([(byte, last.byte)], behind)
      | byte, _ => ([(byte, byte)], rest)
    let (others, rest) ← readSet fuel false rest
    return (ranges ++ others, rest)

/-- An element of a pattern. -/
inductive PatternPart where
  /-- Any run of bytes. -/
  | anyRun
  /-- Any one byte. -/
  | anyByte
  | byte (value : UInt8)
  /-- One byte that is, or that is not, in a set. -/
  | oneOf (negated : Bool) (ranges : ByteRanges)
  deriving DecidableEq, Repr

/-- The pattern that cells spell. The fuel is their number. -/
def readPattern (fuel : Nat) (cells : List Cell) : List PatternPart :=
  match fuel, cells with
  | 0, _ | _, [] => []
  | fuel + 1, cell :: rest =>
    if ¬ cell.special then .byte cell.byte :: readPattern fuel rest
    else if cell.byte = 42 then .anyRun :: readPattern fuel rest
    else if cell.byte = 63 then .anyByte :: readPattern fuel rest
    else if cell.byte = 91 then
      let (negated, members) := match rest with
        | ⟨33, true⟩ :: behind | ⟨94, true⟩ :: behind => (true, behind)
        | _ => (false, rest)
      match readSet members.length true members with
      | some (ranges, rest) => .oneOf negated ranges :: readPattern fuel rest
      | none => .byte 91 :: readPattern fuel rest
    else .byte cell.byte :: readPattern fuel rest

/-- The pattern that cells spell. -/
def patternOf (cells : List Cell) : List PatternPart := readPattern cells.length cells

/-- Whether something in cells is special in a pattern. -/
def hasSpecial (cells : List Cell) : Bool :=
  cells.any fun cell => cell.special && (cell.byte == 42 || cell.byte == 63 || cell.byte == 91)

/-- Whether a pattern matches the whole of a text. -/
def matchesWhole : List PatternPart → Bytes → Bool
  | [], text => text.isEmpty
  | .anyRun :: rest, [] => matchesWhole rest []
  | .anyRun :: rest, byte :: text =>
    matchesWhole rest (byte :: text) || matchesWhole (.anyRun :: rest) text
  | .anyByte :: rest, _ :: text => matchesWhole rest text
  | .byte value :: rest, byte :: text => value == byte && matchesWhole rest text
  | .oneOf negated ranges :: rest, byte :: text =>
    ranges.has byte != negated && matchesWhole rest text
  | _ :: _, [] => false
termination_by pattern text => (pattern.length, text.length)

/-- A text without the start that matches a pattern, the shortest or the longest one. -/
def withoutStart (longest : Bool) (pattern : List PatternPart) (text : Bytes) : Bytes :=
  let lengths := List.range (text.length + 1)
  let lengths := if longest then lengths.reverse else lengths
  match lengths.find? fun length => matchesWhole pattern (text.take length) with
  | some length => text.drop length
  | none => text

/-- A text without the end that matches a pattern, the shortest or the longest one. -/
def withoutEnd (longest : Bool) (pattern : List PatternPart) (text : Bytes) : Bytes :=
  let lengths := List.range (text.length + 1)
  let lengths := if longest then lengths else lengths.reverse
  match lengths.find? fun length => matchesWhole pattern (text.drop length) with
  | some length => text.take length
  | none => text

end SyntaxFold.Sandbox.Shell
