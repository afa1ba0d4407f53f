import SyntaxFold.Entries
import SyntaxFold.Sandbox.Shell.Pattern

/-!
# Regular expressions

The expressions by which utilities find text in lines. They are matched by backtracking: repetitions
take as much as they can, and of two alternatives the one counts with which the whole match is
longer.
-/

namespace SyntaxFold.Sandbox.Utility

open Shell (ByteRanges)

/-- Where a word begins or ends. -/
inductive WordEdge where
  | start
  | finish
  | either
  /-- Everywhere else. -/
  | neither
  deriving DecidableEq, Repr

/-- A regular expression. -/
inductive Regex where
  | empty
  /-- One byte that is, or that is not, in a set. -/
  | one (negated : Bool) (ranges : ByteRanges)
  | start
  | finish
  | edge (form : WordEdge)
  | sequence (first second : Regex)
  | either (first second : Regex)
  | repeated (body : Regex) (least : Nat) (most : Option Nat)
  | group (number : Nat) (body : Regex)
  /-- What a group has matched. -/
  | same (number : Nat)

/-- A place in a line: how much lies before it, the byte in front of it, what lies behind it, and
what the groups have matched so far. -/
structure Position where
  before : Nat
  previous : Option UInt8
  behind : Bytes
  groups : List (Nat × Bytes)

/-- A way to go on from a position to the end of a match. -/
abbrev Continuation := Position → Option Position

/-- Of two ends of a match, the later one. -/
def later : Option Position → Option Position → Option Position
  | some first, some second => if first.before < second.before then some second else some first
  | some first, none => some first
  | none, second => second

/-- Repeats a step as often as possible and then goes on. A round that takes nothing is the last
one. -/
def repeating (step : Position → Continuation → Option Position) (least : Nat)
    (most : Option Nat) : (fuel count : Nat) → Position → Continuation → Option Position
  | 0, count, position, goOn => if least ≤ count then goOn position else none
  | fuel + 1, count, position, goOn =>
    if most = some count then goOn position
    else
      let further := step position fun next =>
        if next.before = position.before ∧ least ≤ count then none
        else repeating step least most fuel (count + 1) next goOn
      match further with
      | some found => some found
      | none => if least ≤ count then goOn position else none

/-- The bytes of words. -/
def wordRanges : ByteRanges := [(48, 57), (65, 90), (95, 95), (97, 122)]

/-- Whether an edge is at a position. -/
def WordEdge.isAt (edge : WordEdge) (position : Position) : Bool :=
  let before := position.previous.any wordRanges.has
  let behind := position.behind.head?.any wordRanges.has
  match edge with
  | start => !before && behind
  | finish => before && !behind
  | either => before != behind
  | neither => before == behind

/-- Matches an expression at a position. The size is that of the whole line. -/
def Regex.run (ignoreCase : Bool) (size : Nat) : Regex → Position → Continuation → Option Position
  | .empty, position, goOn => goOn position
  | .one negated ranges, position, goOn =>
    match position.behind with
    | [] => none
    | byte :: rest =>
      let lower := if 65 ≤ byte ∧ byte ≤ 90 then byte + 32 else byte
      let upper := if 97 ≤ byte ∧ byte ≤ 122 then byte - 32 else byte
      let found := ranges.has byte || (ignoreCase && (ranges.has lower || ranges.has upper))
      if found != negated then
        goOn { position with
          before := position.before + 1
          previous := some byte
          behind := rest }
      else none
  | .start, position, goOn => if position.before = 0 then goOn position else none
  | .finish, position, goOn => if position.behind.isEmpty then goOn position else none
  | .edge form, position, goOn => if form.isAt position then goOn position else none
  | .sequence first second, position, goOn =>
    first.run ignoreCase size position fun next => second.run ignoreCase size next goOn
  | .either first second, position, goOn =>
    later (first.run ignoreCase size position goOn) (second.run ignoreCase size position goOn)
  | .repeated body least most, position, goOn =>
    repeating (body.run ignoreCase size) least most (size + least + 1) 0 position goOn
  | .group number body, position, goOn =>
    body.run ignoreCase size position fun next =>
      let found := position.behind.take (next.before - position.before)
      goOn { next with groups := Entries.insert number found next.groups }
  | .same number, position, goOn =>
    let found := (Entries.get? number position.groups).getD []
    if found.isPrefixOf position.behind then
      goOn { position with
        before := position.before + found.length
        previous := found.getLast?.or position.previous
        behind := position.behind.drop found.length }
    else none

/-- A match in a line: what lies before it, the match itself with its groups, and what lies behind
it. -/
structure Match where
  before : Bytes
  found : Bytes
  groups : List (Nat × Bytes)
  behind : Bytes

/-- Finds the first match in a line, from a position on. What was passed comes newest first. The
fuel is the number of bytes behind the position. -/
def Regex.find (regex : Regex) (ignoreCase : Bool) (fuel before : Nat) (previous : Option UInt8)
    (passed behind : Bytes) : Option Match :=
  let size := before + behind.length
  match regex.run ignoreCase size ⟨before, previous, behind, []⟩ some with
  | some last =>
    some ⟨passed.reverse, behind.take (last.before - before), last.groups, last.behind⟩
  | none =>
    match fuel, behind with
    | fuel + 1, byte :: rest =>
      regex.find ignoreCase fuel (before + 1) (some byte) (byte :: passed) rest
    | _, _ => none

/-- Finds the first match in a whole line. -/
def Regex.findIn (regex : Regex) (ignoreCase : Bool) (line : Bytes) : Option Match :=
  regex.find ignoreCase line.length 0 none [] line

/-- Finds matches that follow each other. A match of nothing is passed over where another one has
just ended. The fuel is the number of bytes that are left, and one more. -/
def Regex.findFrom (regex : Regex) (ignoreCase : Bool) (fuel before : Nat)
    (previous : Option UInt8) (behindMatch : Bool) (passed line : Bytes) : List Match × Bytes :=
  match fuel with
  | 0 => ([], passed.reverse ++ line)
  | fuel + 1 =>
    match regex.find ignoreCase line.length before previous passed line with
    | none => ([], passed.reverse ++ line)
    | some found =>
      let skipped := found.before.length - passed.length
      if ¬ found.found.isEmpty then
        let before := before + skipped + found.found.length
        let (others, rest) :=
          regex.findFrom ignoreCase fuel before found.found.getLast? true [] found.behind
        (found :: others, rest)
      else
        let touching := behindMatch && found.before.isEmpty
        match found.behind with
        | [] => if touching then ([], []) else ([found], [])
        | byte :: rest =>
          let passed := if touching then found.before.reverse else []
          let (others, rest) := regex.findFrom ignoreCase fuel (before + skipped + 1) (some byte)
            false (byte :: passed) rest
          (if touching then others else found :: others, rest)

/-- Finds the matches in a whole line, and what is behind the last one. -/
def Regex.findAll (regex : Regex) (ignoreCase : Bool) (line : Bytes) : List Match × Bytes :=
  regex.findFrom ignoreCase (line.length + 2) 0 none false [] line

/-- How many groups an expression has. -/
def Regex.groupCount : Regex → Nat
  | sequence first second | either first second => first.groupCount + second.groupCount
  | repeated body _ _ => body.groupCount
  | group _ body => body.groupCount + 1
  | _ => 0

/-- The expression that matches a text as it is. -/
def Regex.ofText (text : Bytes) : Regex :=
  text.foldr (fun byte rest => .sequence (.one false [(byte, byte)]) rest) .empty

end SyntaxFold.Sandbox.Utility
