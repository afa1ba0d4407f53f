import SyntaxFold.Sandbox.Shell.Pattern
import SyntaxFold.Sandbox.Utility.Arguments
import SyntaxFold.Sandbox.Utility.Printing

/-!
# Mapping bytes

The utility that maps bytes to bytes, by the sets in which they stand.
-/

namespace SyntaxFold.Sandbox.Utility

/-- All bytes between two, both included. -/
def bytesBetween (first last : UInt8) : Bytes :=
  (List.range (last.toNat + 1 - first.toNat)).map fun offset => first + UInt8.ofNat offset

/-- The byte that a set begins with, and the rest of the set. -/
def firstOfSet : Bytes → UInt8 × Bytes
  | 92 :: letter :: rest =>
    if (octalDigit? letter).isSome then
      let (value, rest) := readOctal 3 0 (letter :: rest)
      (UInt8.ofNat value, rest)
    else ((escapedByte? letter).getD letter, rest)
  | byte :: rest => (byte, rest)
  | [] => (0, [])

/-- The bytes of a set, in order. The fuel is the length of its text. -/
def byteSet (fuel : Nat) (text : Bytes) : Bytes :=
  match fuel, text with
  | 0, _ | _, [] => []
  | fuel + 1, text =>
    let class? : Option (Shell.ByteRanges × Bytes) := match text with
      | 91 :: 58 :: rest =>
        let name : Bytes := rest.takeWhile (· != 58)
        match Shell.byteClass? name.toStringLossy, rest.drop name.length with
        | some ranges, 58 :: 93 :: behind => some (ranges, behind)
        | _, _ => none
      | _ => none
    match class? with
    | some (ranges, behind) =>
      ranges.flatMap (fun range => bytesBetween range.1 range.2) ++ byteSet fuel behind
    | none =>
      let (first, rest) := firstOfSet text
      match rest with
      | 45 :: next :: behind =>
        let (last, behind) := firstOfSet (next :: behind)
        bytesBetween first last ++ byteSet fuel behind
      | rest => first :: byteSet fuel rest

/-- Drops a byte of a set where the same one stands in front of it. -/
def squeezed (set text : Bytes) : Bytes :=
  text.foldr (fun byte rest =>
    if rest.head? = some byte ∧ set.contains byte then rest else byte :: rest) []

/-- The byte that stands in another set where a byte stands in the first one. The last byte of the
other set stands for all further ones. -/
def mappedByte (source target : Bytes) (byte : UInt8) : UInt8 :=
  match source.idxOf? byte with
  | some index => (target[index]?).getD (target.getLast?.getD byte)
  | none => byte

/-- The options of the utility that maps bytes. -/
def trOptions : List OptionRule :=
  [.plain 'c' "complement", .plain 'C' "complement", .plain 'd' "delete",
    .plain 's' "squeeze-repeats", .plain 't' "truncate-set1"]

/-- Maps, deletes or squeezes bytes. -/
def tr (request : Request) : Effect :=
  request.reading trOptions false 1 fun given =>
    let refuse (message : String) : Effect := request.failing 1 (message ++ request.hint)
    let setOf (text : Bytes) : Bytes := byteSet text.length text
    let firstSet (text : Bytes) : Bytes :=
      if given.has "complement" then
        (bytesBetween 0 255).filter fun byte => !(setOf text).contains byte
      else setOf text
    let text := request.input
    match given.has "delete", given.has "squeeze-repeats", given.operands with
    | _, _, [] => refuse "missing operand"
    | true, false, [set] =>
      let set := firstSet set
      request.filtering (text.filter fun byte => !set.contains byte)
    | true, true, [set] =>
      refuse ("missing operand after " ++ quotedText set ++
        "\nTwo strings must be given when both deleting and squeezing repeats.")
    | true, true, [set, other] =>
      let set := firstSet set
      request.filtering (squeezed (setOf other) (text.filter fun byte => !set.contains byte))
    | true, false, [_, extra] =>
      refuse ("extra operand " ++ quotedText extra ++
        "\nOnly one string may be given when deleting without squeezing repeats.")
    | false, true, [set] => request.filtering (squeezed (firstSet set) text)
    | false, false, [set] =>
      refuse ("missing operand after " ++ quotedText set ++
        "\nTwo strings must be given when translating.")
    | false, squeezes, [set, other] =>
      let target := setOf other
      if target.isEmpty ∧ ¬ given.has "truncate-set1" then
        request.failing 1 "when not truncating set1, string2 must be non-empty"
      else
        let set := firstSet set
        let set := if given.has "truncate-set1" then set.take target.length else set
        let mapped := text.map (mappedByte set target)
        request.filtering (if squeezes then squeezed target mapped else mapped)
    | _, _, operands => request.tooMany (operands.getD 2 [])

end SyntaxFold.Sandbox.Utility
