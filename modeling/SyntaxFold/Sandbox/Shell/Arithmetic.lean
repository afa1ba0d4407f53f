import SyntaxFold.Entries
import SyntaxFold.Text.Bytes

/-!
# Arithmetic in scripts

Arithmetic expressions over words of 64 bits, which wrap around. A text is told apart into symbols,
read by descent, and evaluated over the variables of a script, which it can also change. What is
behind a condition that does not hold is not evaluated.
-/

namespace SyntaxFold.Sandbox.Shell.Arithmetic

/-- Why an expression has no value. -/
inductive Fault where
  | expecting (what : String)
  | divisionByZero
  /-- A variable holds something that is not a number. -/
  | illegalNumber (text : String)
  deriving DecidableEq, Repr

/-- The text of a fault in an expression. -/
def Fault.message (expression : String) : Fault → String
  | expecting what =>
    "arithmetic expression: expecting " ++ what ++ ": \"" ++ expression ++ "\""
  | divisionByZero => "arithmetic expression: division by zero: \"" ++ expression ++ "\""
  | illegalNumber text => "Illegal number: " ++ text

/-- A symbol of an expression. -/
inductive Symbol where
  | number (value : Int64)
  | name (text : String)
  | operator (text : String)
  deriving DecidableEq

/-- The value of a digit in a base. -/
def digit? (base : Nat) (c : Char) : Option Nat :=
  let value :=
    if c.isDigit then c.toNat - 48
    else if c.isAlpha then c.toLower.toNat - 87
    else 36
  if value < base then some value else none

/-- Reads digits of a base; a value that is too large gives way to the largest one. -/
def digits (base : Nat) (text : List Char) : Int64 × List Char :=
  let isDigit (c : Char) : Bool := (digit? base c).isSome
  let value := (text.takeWhile isDigit).foldl (fun value c =>
    base * value + (digit? base c).getD 0) 0
  (Int64.ofNat (min value 9223372036854775807), text.dropWhile isDigit)

/-- Reads a number: hexadecimal behind `0x`, octal behind `0`, else decimal. -/
def number : List Char → Int64 × List Char
  | '0' :: x :: c :: rest =>
    if (x = 'x' ∨ x = 'X') ∧ (digit? 16 c).isSome then digits 16 (c :: rest)
    else digits 8 ('0' :: x :: c :: rest)
  | '0' :: rest => digits 8 ('0' :: rest)
  | text => digits 10 text

/-- The operators, those first that others begin with. -/
def operators : List String :=
  ["<<=", ">>=", "<<", ">>", "<=", ">=", "==", "!=", "&&", "||", "+=", "-=", "*=", "/=", "%=",
    "&=", "^=", "|=", "<", ">", "+", "-", "*", "/", "%", "&", "^", "|", "!", "~", "?", ":", "=",
    "(", ")"]

/-- The symbols of a text. A character that begins no symbol is an operator that nothing
expects. The fuel is the length of the text. -/
def symbols (fuel : Nat) (text : List Char) : List Symbol :=
  match fuel, text with
  | 0, _ | _, [] => []
  | fuel + 1, c :: rest =>
    if c = ' ' ∨ c = '\t' ∨ c = '\n' then symbols fuel rest
    else if c.isDigit then
      let (value, rest) := number (c :: rest)
      .number value :: symbols fuel rest
    else if c.isAlpha ∨ c = '_' then
      let isPart (c : Char) : Bool := c.isAlphanum || c == '_'
      .name (String.ofList ((c :: rest).takeWhile isPart)) ::
        symbols fuel ((c :: rest).dropWhile isPart)
    else
      match operators.find? fun operator => operator.toList.isPrefixOf (c :: rest) with
      | some operator => .operator operator :: symbols fuel ((c :: rest).drop operator.length)
      | none => [.operator (String.ofList [c])]

/-- An expression. -/
inductive Expression where
  | number (value : Int64)
  | named (name : String)
  | unary (operator : String) (operand : Expression)
  | binary (operator : String) (left right : Expression)
  | both (left right : Expression)
  | either (left right : Expression)
  | choice (condition whenTrue whenFalse : Expression)
  /-- A variable takes a value, perhaps combined with the one that it has. -/
  | assign (name : String) (operator : Option String) (value : Expression)

/-- The operators that bind equally, from the tightest to the loosest. -/
def levels : List (List String) :=
  [["*", "/", "%"], ["+", "-"], ["<<", ">>"], ["<", "<=", ">", ">="], ["==", "!="], ["&"], ["^"],
    ["|"]]

/-- The operator inside an assignment; the plain assignment has none. -/
def assignment? : String → Option (Option String)
  | "=" => some none
  | "+=" => some (some "+")
  | "-=" => some (some "-")
  | "*=" => some (some "*")
  | "/=" => some (some "/")
  | "%=" => some (some "%")
  | "<<=" => some (some "<<")
  | ">>=" => some (some ">>")
  | "&=" => some (some "&")
  | "^=" => some (some "^")
  | "|=" => some (some "|")
  | _ => none

/-- What reading gives: an expression and the symbols behind it. -/
abbrev Reading := Except Fault (Expression × List Symbol)

mutual

/-- Reads an assignment, or what stands in its place. -/
def readAssignment (fuel : Nat) (text : List Symbol) : Reading :=
  match fuel, text with
  | 0, _ => .error (.expecting "primary")
  | fuel + 1, .name name :: .operator operator :: rest =>
    match assignment? operator with
    | some combined => do
      let (value, rest) ← readAssignment fuel rest
      return (.assign name combined value, rest)
    | none => readCondition fuel (.name name :: .operator operator :: rest)
  | fuel + 1, text => readCondition fuel text

/-- Reads a condition with its branches, or what stands in its place. -/
def readCondition (fuel : Nat) (text : List Symbol) : Reading :=
  match fuel with
  | 0 => .error (.expecting "primary")
  | fuel + 1 => do
    let (condition, rest) ← readEither fuel text
    match rest with
    | .operator "?" :: rest =>
      let (whenTrue, rest) ← readAssignment fuel rest
      match rest with
      | .operator ":" :: rest =>
        let (whenFalse, rest) ← readCondition fuel rest
        return (.choice condition whenTrue whenFalse, rest)
      | _ => throw (.expecting "':'")
    | rest => return (condition, rest)

/-- Reads operands of which one must hold. -/
def readEither (fuel : Nat) (text : List Symbol) : Reading :=
  match fuel with
  | 0 => .error (.expecting "primary")
  | fuel + 1 => do
    let (left, rest) ← readBoth fuel text
    match rest with
    | .operator "||" :: rest =>
      let (right, rest) ← readEither fuel rest
      return (.either left right, rest)
    | rest => return (left, rest)

/-- Reads operands that must all hold. -/
def readBoth (fuel : Nat) (text : List Symbol) : Reading :=
  match fuel with
  | 0 => .error (.expecting "primary")
  | fuel + 1 => do
    let (left, rest) ← readLevel fuel levels.length text
    match rest with
    | .operator "&&" :: rest =>
      let (right, rest) ← readBoth fuel rest
      return (.both left right, rest)
    | rest => return (left, rest)

/-- Reads operands that are joined by the operators of the first levels. -/
def readLevel (fuel level : Nat) (text : List Symbol) : Reading :=
  match fuel, level with
  | 0, _ => .error (.expecting "primary")
  | fuel + 1, 0 => readPrimary fuel text
  | fuel + 1, level + 1 => do
    let (left, rest) ← readLevel fuel level text
    readLevelTail fuel level left rest

/-- Reads the operands that follow the first one. -/
def readLevelTail (fuel level : Nat) (left : Expression) (text : List Symbol) : Reading :=
  match fuel, text with
  | 0, _ => .error (.expecting "primary")
  | fuel + 1, .operator operator :: rest =>
    if (levels.getD level []).contains operator then do
      let (right, rest) ← readLevel fuel level rest
      readLevelTail fuel level (.binary operator left right) rest
    else .ok (left, .operator operator :: rest)
  | _, text => .ok (left, text)

/-- Reads an operand. -/
def readPrimary (fuel : Nat) (text : List Symbol) : Reading :=
  match fuel, text with
  | _, .number value :: rest => .ok (.number value, rest)
  | _, .name name :: rest => .ok (.named name, rest)
  | fuel + 1, .operator "(" :: rest => do
    let (inner, rest) ← readAssignment fuel rest
    match rest with
    | .operator ")" :: rest => return (inner, rest)
    | _ => throw (.expecting "')'")
  | fuel + 1, .operator operator :: rest => do
    if ["+", "-", "!", "~"].contains operator then
      let (operand, rest) ← readPrimary fuel rest
      return (.unary operator operand, rest)
    else throw (.expecting "primary")
  | _, _ => .error (.expecting "primary")

end

/-- The expression that a text spells. -/
def read (text : String) : Except Fault Expression := do
  let symbols := symbols text.length text.toList
  let (expression, rest) ← readAssignment (32 * symbols.length + 32) symbols
  if rest.isEmpty then return expression else throw (.expecting "EOF")

/-- The number that a condition counts as. -/
def truth (holds : Bool) : Int64 := if holds then 1 else 0

/-- The value of an operator on one operand. -/
def unaryValue (operator : String) (operand : Int64) : Int64 :=
  match operator with
  | "-" => -operand
  | "!" => truth (operand == 0)
  | "~" => -operand - 1
  | _ => operand

/-- The value of an operator on two operands. -/
def binaryValue (operator : String) (left right : Int64) : Except Fault Int64 :=
  match operator with
  | "*" => .ok (left * right)
  | "/" => if right = 0 then .error .divisionByZero else .ok (left / right)
  | "%" => if right = 0 then .error .divisionByZero else .ok (left % right)
  | "+" => .ok (left + right)
  | "-" => .ok (left - right)
  | "<<" => .ok (left <<< right)
  | ">>" => .ok (left >>> right)
  | "<" => .ok (truth (left < right))
  | "<=" => .ok (truth (left ≤ right))
  | ">" => .ok (truth (right < left))
  | ">=" => .ok (truth (right ≤ left))
  | "==" => .ok (truth (left == right))
  | "!=" => .ok (truth (left != right))
  | "&" => .ok (left &&& right)
  | "^" => .ok (left ^^^ right)
  | _ => .ok (left ||| right)

/-- The variables of a script. -/
abbrev Bindings := List (String × Bytes)

/-- The number in a variable; one without a value holds zero. -/
def valueOf (bindings : Bindings) (name : String) : Except Fault Int64 :=
  let text := ((Entries.get? name bindings).getD []).toStringLossy
  let isBlank (c : Char) : Bool := c == ' ' || c == '\t' || c == '\n'
  let trimmed := ((text.toList.dropWhile isBlank).reverse.dropWhile isBlank).reverse
  let (negative, unsigned) := match trimmed with
    | '-' :: rest => (true, rest)
    | '+' :: rest => (false, rest)
    | rest => (false, rest)
  match trimmed, number unsigned with
  | [], _ => .ok 0
  | _, (value, []) =>
    if unsigned.isEmpty then .error (.illegalNumber text)
    else .ok (if negative then -value else value)
  | _, _ => .error (.illegalNumber text)

/-- The value of an expression, and the variables behind it. -/
def Expression.eval (bindings : Bindings) : Expression → Except Fault (Int64 × Bindings)
  | number value => .ok (value, bindings)
  | named name => do return (← valueOf bindings name, bindings)
  | unary operator operand => do
    let (value, bindings) ← operand.eval bindings
    return (unaryValue operator value, bindings)
  | binary operator left right => do
    let (first, bindings) ← left.eval bindings
    let (second, bindings) ← right.eval bindings
    return (← binaryValue operator first second, bindings)
  | both left right => do
    let (first, bindings) ← left.eval bindings
    if first = 0 then return (0, bindings)
    else
      let (second, bindings) ← right.eval bindings
      return (truth (second != 0), bindings)
  | either left right => do
    let (first, bindings) ← left.eval bindings
    if first ≠ 0 then return (1, bindings)
    else
      let (second, bindings) ← right.eval bindings
      return (truth (second != 0), bindings)
  | choice condition whenTrue whenFalse => do
    let (value, bindings) ← condition.eval bindings
    if value ≠ 0 then whenTrue.eval bindings else whenFalse.eval bindings
  | assign name operator value => do
    let (assigned, bindings) ← value.eval bindings
    let result ← match operator with
      | none => .ok assigned
      | some operator => binaryValue operator (← valueOf bindings name) assigned
    return (result, Entries.insert name (Bytes.ofString (toString result.toInt)) bindings)

end SyntaxFold.Sandbox.Shell.Arithmetic
