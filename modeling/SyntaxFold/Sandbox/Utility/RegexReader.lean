import SyntaxFold.Sandbox.Utility.Regex

/-!
# Reading regular expressions

An expression is read in the basic or in the extended form. Symbols come first; then alternatives,
sequences and repetitions are told apart by descent. A lenient reader takes an operator that stands
where it must not for something else.
-/

namespace SyntaxFold.Sandbox.Utility

open Shell (ByteRanges Cell readSet)

/-- How expressions are read. -/
structure RegexForm where
  extended : Bool
  lenient : Bool
  deriving DecidableEq, Repr

/-- What is wrong with a text that spells no expression. -/
inductive RegexFault where
  | openGroup
  | closedGroup
  | openSet
  | badRange
  | badClass
  | openBounds
  | badBounds
  | tooBig
  | noOperand
  | noGroup
  | lastBackslash
  deriving DecidableEq, Repr

/-- The text of a fault. -/
def RegexFault.message : RegexFault → String
  | openGroup => "Unmatched ( or \\("
  | closedGroup => "Unmatched ) or \\)"
  | openSet => "Unmatched [, [^, [:, [., or [="
  | badRange => "Invalid range end"
  | badClass => "Invalid character class name"
  | openBounds => "Unmatched \\\x7b"
  | badBounds => "Invalid content of \\\x7b\\\x7d"
  | tooBig => "Regular expression too big"
  | noOperand => "Invalid preceding regular expression"
  | noGroup => "Invalid back reference"
  | lastBackslash => "Trailing backslash"

/-- A symbol of a regular expression. -/
inductive RegexSymbol where
  | one (negated : Bool) (ranges : ByteRanges)
  | start
  | finish
  | edge (form : WordEdge)
  | opening
  | closing
  | bar
  /-- An operator that repeats what is in front of it, with the byte that it can also stand for. -/
  | repeated (least : Nat) (most : Option Nat) (literal : Option UInt8)
  | same (number : Nat)
  deriving DecidableEq, Repr

/-- Reads a decimal number. -/
def readNumber (text : Bytes) : Option Nat × Bytes :=
  let digits := text.takeWhile fun byte => 48 ≤ byte && byte ≤ 57
  let value := digits.foldl (fun value byte => 10 * value + (byte.toNat - 48)) 0
  (if digits.isEmpty then none else some value, text.drop digits.length)

/-- How often a part may be repeated at most. -/
def maxRepetitions : Nat := 32767

/-- Reads the bounds of a repetition, up to the brace that closes them. -/
def readBounds (form : RegexForm) (text : Bytes) :
    Except RegexFault (Nat × Option Nat × Bytes) := do
  let (least, rest) := readNumber text
  let (comma, most, rest) := match rest with
    | 44 :: rest =>
      let (most, rest) := readNumber rest
      (true, most, rest)
    | rest => (false, least, rest)
  match form.extended, rest with
  | true, 125 :: rest | false, 92 :: 125 :: rest =>
    if least.isNone ∧ ¬ comma then throw .badBounds
    else if most.any (· < least.getD 0) then throw .badBounds
    else if maxRepetitions < max (least.getD 0) (most.getD 0) then throw .tooBig
    else return (least.getD 0, most, rest)
  | _, [] => throw .openBounds
  | _, _ => throw .badBounds

/-- The sets of bytes that letters behind a backslash stand for. -/
def escapedSet? (letter : UInt8) : Option (Bool × ByteRanges) :=
  match Char.ofNat letter.toNat with
  | 'n' => some (false, [(10, 10)])
  | 't' => some (false, [(9, 9)])
  | 'w' => some (false, wordRanges)
  | 'W' => some (true, wordRanges)
  | 's' => some (false, [(9, 13), (32, 32)])
  | 'S' => some (true, [(9, 13), (32, 32)])
  | _ => none

/-- The edges of words that letters behind a backslash stand for. -/
def escapedEdge? (letter : UInt8) : Option WordEdge :=
  match Char.ofNat letter.toNat with
  | 'b' => some .either
  | 'B' => some .neither
  | '<' => some .start
  | '>' => some .finish
  | _ => none

/-- Whether a text has got a class with a name that stands for nothing. The fuel is the length of
the text. -/
def hasUnknownClass (fuel : Nat) (text : Bytes) : Bool :=
  match fuel, text with
  | fuel + 1, 91 :: 58 :: rest =>
    let name : Bytes := rest.takeWhile (· != 58)
    match rest.drop name.length with
    | 58 :: 93 :: behind =>
      (Shell.byteClass? name.toStringLossy).isNone || hasUnknownClass fuel behind
    | _ => hasUnknownClass fuel rest
  | fuel + 1, _ :: rest => hasUnknownClass fuel rest
  | _, _ => false

/-- Reads a set, behind its bracket. -/
def readRegexSet (text : Bytes) : Except RegexFault (RegexSymbol × Bytes) :=
  let (negated, members) := match text with
    | 94 :: members => (true, members)
    | members => (false, members)
  match readSet members.length true (members.map fun byte => ⟨byte, true⟩) with
  | none => .error .openSet
  | some (ranges, rest) =>
    let inside := members.take (members.length - rest.length)
    if hasUnknownClass inside.length inside then .error .badClass
    else if ranges.any fun range => range.2 < range.1 then .error .badRange
    else .ok (.one negated ranges, rest.map Cell.byte)

/-- The symbol of a byte that stands for itself. -/
def plainSymbol (byte : UInt8) : RegexSymbol := .one false [(byte, byte)]

/-- Reads a symbol behind a backslash. -/
def readEscaped (form : RegexForm) (letter : UInt8) (rest : Bytes) :
    Except RegexFault (RegexSymbol × Bytes) :=
  if 49 ≤ letter ∧ letter ≤ 57 then .ok (.same (letter.toNat - 48), rest)
  else match escapedSet? letter, escapedEdge? letter, form.extended with
    | some (negated, ranges), _, _ => .ok (.one negated ranges, rest)
    | none, some edge, _ => .ok (.edge edge, rest)
    | none, none, true => .ok (plainSymbol letter, rest)
    | none, none, false =>
      match Char.ofNat letter.toNat with
      | '(' => .ok (.opening, rest)
      | ')' => .ok (.closing, rest)
      | '|' => .ok (.bar, rest)
      | '+' => .ok (.repeated 1 none (some letter), rest)
      | '?' => .ok (.repeated 0 (some 1) (some letter), rest)
      | '\x7b' => do
        let (least, most, rest) ← readBounds form rest
        return (.repeated least most none, rest)
      | _ => .ok (plainSymbol letter, rest)

/-- Reads a symbol of one byte. What can be special only at the start of a part depends on whether
one begins. -/
def readSymbol (form : RegexForm) (begins : Bool) (byte : UInt8) (rest : Bytes) :
    Except RegexFault (RegexSymbol × Bytes) :=
  let special (symbol : RegexSymbol) : Except RegexFault (RegexSymbol × Bytes) :=
    .ok (if form.extended then symbol else plainSymbol byte, rest)
  match Char.ofNat byte.toNat with
  | '.' => .ok (.one true [], rest)
  | '[' => readRegexSet rest
  | '*' =>
    .ok (if begins ∧ ¬ form.extended then plainSymbol byte else .repeated 0 none (some byte), rest)
  | '^' => .ok (if begins ∨ form.extended then .start else plainSymbol byte, rest)
  | '$' =>
    let ends := match rest with
      | [] | 92 :: 41 :: _ | 92 :: 124 :: _ => true
      | _ => form.extended
    .ok (if ends then .finish else plainSymbol byte, rest)
  | '(' => special .opening
  | ')' => special .closing
  | '|' => special .bar
  | '+' => special (.repeated 1 none (some byte))
  | '?' => special (.repeated 0 (some 1) (some byte))
  | '\x7b' =>
    if !form.extended then .ok (plainSymbol byte, rest)
    else match readBounds form rest, form.lenient with
      | .ok (least, most, rest), _ => .ok (.repeated least most none, rest)
      | .error .openBounds, true => .ok (plainSymbol byte, rest)
      | .error .badBounds, true =>
        if rest.head?.any fun byte => 48 ≤ byte && byte ≤ 57 then .error .badBounds
        else .ok (plainSymbol byte, rest)
      | .error fault, lenient => .error (if begins ∧ ¬ lenient then .noOperand else fault)
  | _ => .ok (plainSymbol byte, rest)

/-- The symbols of a text. The fuel is the length of the text. -/
def regexSymbols (form : RegexForm) (fuel : Nat) (begins : Bool) (text : Bytes) :
    Except RegexFault (List RegexSymbol) :=
  match fuel, text with
  | _, [] | 0, _ => .ok []
  | fuel + 1, byte :: rest => do
    let (symbol, rest) ← match byte, rest with
      | 92, [] => throw .lastBackslash
      | 92, letter :: rest => readEscaped form letter rest
      | byte, rest => readSymbol form begins byte rest
    let begins := symbol == .start || symbol == .opening || symbol == .bar
    return symbol :: (← regexSymbols form fuel begins rest)

/-- An expression as far as it was read. -/
structure RegexReading where
  regex : Regex
  /-- How many groups have been opened. -/
  groups : Nat
  /-- The groups that have been closed. -/
  closed : List Nat
  left : List RegexSymbol

/-- A place in an expression: the groups so far, the alternatives that are done, what of the current
one is read, and what an operator that follows would repeat. -/
structure RegexPlace where
  groups : Nat
  closed : List Nat
  done : Option Regex
  current : Regex
  operand : Option Regex

namespace RegexPlace

/-- The place before everything, behind so many groups. -/
def start (groups : Nat) (closed : List Nat) : RegexPlace := ⟨groups, closed, none, .empty, none⟩

/-- The current alternative. -/
def alternative (place : RegexPlace) : Regex :=
  match place.operand with
  | some operand => .sequence place.current operand
  | none => place.current

/-- All alternatives. -/
def whole (place : RegexPlace) : Regex :=
  match place.done with
  | some done => .either done place.alternative
  | none => place.alternative

/-- Adds a part that can be repeated. -/
def adding (place : RegexPlace) (part : Regex) : RegexPlace :=
  { place with current := place.alternative, operand := some part }

/-- Adds a part that cannot be repeated. -/
def addingEdge (place : RegexPlace) (part : Regex) : RegexPlace :=
  { place with current := .sequence place.alternative part, operand := none }

/-- Repeats the part that was added last. -/
def repeating (place : RegexPlace) (form : RegexForm) (least : Nat) (most : Option Nat)
    (literal : Option UInt8) : Except RegexFault RegexPlace :=
  match place.operand with
  | none =>
    match literal with
    | some byte =>
      if !form.extended then .ok (place.adding (.one false [(byte, byte)]))
      else if form.lenient then .ok place
      else .error .noOperand
    | none => if form.lenient then .ok place else .error .noOperand
  | some operand =>
    let again := !form.extended && !form.lenient && (literal.isNone || literal == some 42)
    match again, operand with
    | true, .repeated .. => .error .noOperand
    | _, operand => .ok { place with operand := some (.repeated operand least most) }

end RegexPlace

/-- Reads alternatives, in a group up to the parenthesis that closes it. The fuel is the number of
symbols, and one more. -/
def readRegex (form : RegexForm) (fuel : Nat) (inGroup : Bool) (place : RegexPlace)
    (symbols : List RegexSymbol) : Except RegexFault RegexReading :=
  match fuel, symbols with
  | 0, _ => .error .tooBig
  | _, [] =>
    if inGroup then .error .openGroup else .ok ⟨place.whole, place.groups, place.closed, []⟩
  | fuel + 1, symbol :: rest =>
    match symbol with
    | .closing =>
      if inGroup then .ok ⟨place.whole, place.groups, place.closed, rest⟩
      else if form.extended ∧ form.lenient then
        readRegex form fuel inGroup (place.adding (.one false [(41, 41)])) rest
      else .error .closedGroup
    | .bar =>
      let place := { place with done := some place.whole, current := .empty, operand := none }
      readRegex form fuel inGroup place rest
    | .repeated least most literal => do
      let place ← place.repeating form least most literal
      readRegex form fuel inGroup place rest
    | .opening => do
      let number := place.groups + 1
      let inner ← readRegex form fuel true (.start number place.closed) rest
      let place := { place with groups := inner.groups, closed := number :: inner.closed }
      readRegex form fuel inGroup (place.adding (.group number inner.regex)) inner.left
    | .one negated ranges => readRegex form fuel inGroup (place.adding (.one negated ranges)) rest
    | .same number =>
      if place.closed.contains number then
        readRegex form fuel inGroup (place.adding (.same number)) rest
      else .error .noGroup
    | .start => readRegex form fuel inGroup (place.addingEdge .start) rest
    | .finish => readRegex form fuel inGroup (place.addingEdge .finish) rest
    | .edge edge => readRegex form fuel inGroup (place.addingEdge (.edge edge)) rest

/-- The expression that a text spells. -/
def Regex.read (form : RegexForm) (text : Bytes) : Except RegexFault Regex := do
  let symbols ← regexSymbols form text.length true text
  return (← readRegex form (symbols.length + 1) false (.start 0 []) symbols).regex

end SyntaxFold.Sandbox.Utility
