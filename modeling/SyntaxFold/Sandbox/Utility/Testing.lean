import SyntaxFold.Sandbox.Utility.RegexReader
import SyntaxFold.Sandbox.Utility.Basic

/-!
# Testing

The utilities that evaluate expressions in their arguments: `test` says whether a condition on
texts, numbers and files holds, and `expr` prints a value.
-/

namespace SyntaxFold.Sandbox.Utility

/-- The operators of conditions on two texts. -/
def testBinary : List String :=
  ["=", "!=", "<", ">", "-eq", "-ne", "-gt", "-ge", "-lt", "-le", "-nt", "-ot", "-ef"]

/-- The operators of conditions on one text. -/
def testUnary : List String :=
  ["-n", "-z", "-e", "-f", "-d", "-r", "-w", "-x", "-s", "-L", "-h", "-p", "-S", "-b", "-c", "-t",
    "-g", "-u", "-k", "-O", "-G"]

/-- The number that an operand spells, with blanks around it and perhaps a sign. -/
def testNumber (text : String) : Except String Int :=
  let isBlank (c : Char) : Bool := c == ' ' || (9 ≤ c.toNat && c.toNat ≤ 13)
  let trimmed := ((text.toList.dropWhile isBlank).reverse.dropWhile isBlank).reverse
  let (negative, digits) := match trimmed with
    | '-' :: digits => (true, digits)
    | '+' :: digits => (false, digits)
    | digits => (false, digits)
  let value : Nat := digits.foldl (fun value c => 10 * value + (c.toNat - 48)) 0
  if digits.isEmpty ∨ !digits.all Char.isDigit ∨ 9223372036854775807 < value then
    .error ("Illegal number: " ++ text)
  else .ok (if negative then -(value : Int) else value)

/-- Whether an operator holds of two texts. -/
def testOfTwo (left operator right : String) : Except String Bool := do
  match operator with
  | "=" => return left == right
  | "!=" => return left != right
  | "<" => return left < right
  | ">" => return right < left
  | "-eq" => return (← testNumber left) == (← testNumber right)
  | "-ne" => return (← testNumber left) != (← testNumber right)
  | "-gt" => return (← testNumber right) < (← testNumber left)
  | "-ge" => return (← testNumber right) ≤ (← testNumber left)
  | "-lt" => return (← testNumber left) < (← testNumber right)
  | "-le" => return (← testNumber left) ≤ (← testNumber right)
  | _ => return false

/-- Whether an operator holds of a text, or of the file that it names. -/
def testOfOne (directory : Directory) (operator operand : String) : Bool :=
  let found? := (directory.entry operand).toOption
  let executable := match found? with
    | some (.file _ executable) => executable
    | some .folder | some .program => true
    | _ => false
  match operator with
  | "-n" => operand ≠ ""
  | "-z" => operand == ""
  | "-e" | "-r" | "-w" | "-O" | "-G" => found?.isSome
  | "-f" => (found? matches some (.file ..) | some .program | some (.closed _))
  | "-d" => (found? matches some .folder)
  | "-c" => (found? matches some (.device .null) | some (.device .full))
  | "-p" => (found? matches some (.device (.stream _)))
  | "-x" => executable
  | "-s" =>
    match found? with
    | some (.file content _) => !content.bytes.isEmpty
    | some .folder | some .program => true
    | _ => false
  | _ => false

/-- What stands at an argument of a condition. -/
inductive TestToken where
  | ending
  | operand
  | operator (name : String)
  deriving DecidableEq, Repr

/-- The operators that connect conditions. -/
def testConnectives : List String := ["!", "(", ")", "-a", "-o"]

/-- What stands at the first of some arguments. An operator on one text is a text itself where no
text follows it, or where it is compared with one. -/
def TestToken.ofArguments : List String → TestToken
  | [] => ending
  | first :: rest =>
    let standsAlone := match rest with
      | [] => true
      | [_] => false
      | next :: _ => testBinary.contains next
    if testUnary.contains first then if standsAlone then operand else operator first
    else if first = "(" ∧ rest.isEmpty then operand
    else if testBinary.contains first ∨ testConnectives.contains first then operator first
    else operand

/-- What reading a condition gives: whether it holds, and the arguments from the last one that was
read. -/
abbrev TestReading := Except String (Bool × List String)

mutual

/-- Reads conditions of which one must hold, the first of which begins with the given token. -/
def testEither (fuel : Nat) (directory : Directory) (token : TestToken)
    (arguments : List String) : TestReading :=
  match fuel with
  | 0 => .ok (false, arguments)
  | fuel + 1 => do
    let (left, arguments) ← testBoth fuel directory token arguments
    if TestToken.ofArguments (arguments.drop 1) = .operator "-o" then
      let behind := arguments.drop 2
      let (right, arguments) ← testEither fuel directory (.ofArguments behind) behind
      return (left || right, arguments)
    else return (left, arguments)

/-- Reads conditions that must all hold. -/
def testBoth (fuel : Nat) (directory : Directory) (token : TestToken)
    (arguments : List String) : TestReading :=
  match fuel with
  | 0 => .ok (false, arguments)
  | fuel + 1 => do
    let (left, arguments) ← testNot fuel directory token arguments
    if TestToken.ofArguments (arguments.drop 1) = .operator "-a" then
      let behind := arguments.drop 2
      let (right, arguments) ← testBoth fuel directory (.ofArguments behind) behind
      return (left && right, arguments)
    else return (left, arguments)

/-- Reads a condition that may be negated. -/
def testNot (fuel : Nat) (directory : Directory) (token : TestToken)
    (arguments : List String) : TestReading :=
  match fuel with
  | 0 => .ok (false, arguments)
  | fuel + 1 =>
    if token = .operator "!" then do
      let behind := arguments.drop 1
      let next := TestToken.ofArguments behind
      let (holds, arguments) ←
        testNot fuel directory next (if next = .ending then arguments else behind)
      return (!holds, arguments)
    else testPrimary fuel directory token arguments

/-- Reads a single condition, or conditions in parentheses. -/
def testPrimary (fuel : Nat) (directory : Directory) (token : TestToken)
    (arguments : List String) : TestReading :=
  match fuel with
  | 0 => .ok (false, arguments)
  | fuel + 1 =>
    match token, arguments with
    | .ending, arguments => .ok (false, arguments)
    | _, [] => .ok (false, [])
    | .operator "(", _ :: arguments =>
      match TestToken.ofArguments arguments with
      | .operator ")" => .ok (false, arguments)
      | token => do
        let (holds, arguments) ← testEither fuel directory token arguments
        if TestToken.ofArguments (arguments.drop 1) = .operator ")" then
          return (holds, arguments.drop 1)
        else throw "closing paren expected"
    | token, first :: rest =>
      let isUnary := match token with
        | .operator name => testUnary.contains name
        | _ => false
      if isUnary then
        match rest with
        | operand :: _ => .ok (testOfOne directory first operand, rest)
        | [] => .error (first ++ ": argument expected")
      else match TestToken.ofArguments rest, rest with
        | .operator name, _ :: behind =>
          if testBinary.contains name then
            match behind with
            | right :: _ => do return (← testOfTwo first name right, behind)
            | [] => .error (name ++ ": argument expected")
          else .ok (first ≠ "", first :: rest)
        | _, _ => .ok (first ≠ "", first :: rest)

end

/-- Whether the condition in the arguments holds, which begins with the given token. -/
def testFrom (directory : Directory) (token : TestToken) (arguments : List String) :
    Except String Bool := do
  let (holds, rest) ← testEither (4 * arguments.length + 4) directory token arguments
  match rest with
  | "" :: _ :: _ => throw "unexpected operator"
  | next :: _ :: _ => throw (next ++ ": unexpected operator")
  | _ => return holds

/-- Whether the condition in the arguments holds. Their number decides first how they are read. The
fuel is their number. -/
def testAll (fuel : Nat) (directory : Directory) (arguments : List String) :
    Except String Bool :=
  let plain := testFrom directory (.ofArguments arguments) arguments
  let enclosed : Except String Bool :=
    match fuel, arguments with
    | fuel + 1, first :: rest =>
      if first = "(" ∧ rest.getLast? = some ")" then
        let inside := rest.dropLast
        testFrom directory (.ofArguments inside) inside
      else if first = "!" then (testAll fuel directory rest).map (!·)
      else plain
    | _, _ => plain
  match arguments with
  | [] => .ok false
  | [_, operator, _] =>
    if testBinary.contains operator then testFrom directory .operand arguments else enclosed
  | [_, _, _, _] => enclosed
  | _ => plain

/-- Says by its status whether the condition in the arguments holds. -/
def test (request : Request) : Effect :=
  match testAll request.arguments.length request.directory request.texts with
  | .ok holds => request.ending (if holds then 0 else 1)
  | .error message => request.failing 2 message

/-- Says whether a condition holds that a bracket must close. -/
def bracketTest (request : Request) : Effect :=
  if request.arguments.getLast? = some [93] then
    test { request with arguments := request.arguments.dropLast }
  else request.failing 2 "missing ]"

/-- Says whether a condition holds that a bracket must close, as a program. -/
def plainBracketTest (request : Request) : Effect :=
  if request.arguments.getLast? = some [93] then bracketTest request
  else request.failing 2 "missing ']'"

/-- What reading an expression gives: its value, and the arguments behind it. -/
abbrev ExprReading := Except String (String × List String)

/-- Whether a value counts as none. -/
def isNull (value : String) : Bool := value == "" || integer? value == some 0

/-- The value of an operator on two values. -/
def exprValue (left operator right : String) : Except String String := do
  let numbers? : Option (Int × Int) := do return (← integer? left, ← integer? right)
  let compare (ofNumbers : Int → Int → Bool) (ofTexts : String → String → Bool) : String :=
    let holds := match numbers? with
      | some (first, second) => ofNumbers first second
      | none => ofTexts left right
    if holds then "1" else "0"
  let compute (action : Int → Int → Except String Int) : Except String String :=
    match numbers? with
    | some (first, second) => (action first second).map toString
    | none => .error "non-integer argument"
  match operator with
  | "=" | "==" => return compare (· == ·) (· == ·)
  | "!=" => return compare (· != ·) (· != ·)
  | "<" => return compare (fun first second => first < second) (fun first second => first < second)
  | "<=" => return compare (fun first second => first ≤ second) (fun first second => first ≤ second)
  | ">" => return compare (fun first second => second < first) (fun first second => second < first)
  | ">=" => return compare (fun first second => second ≤ first) (fun first second => second ≤ first)
  | "+" => compute fun first second => .ok (first + second)
  | "-" => compute fun first second => .ok (first - second)
  | "*" => compute fun first second => .ok (first * second)
  | "/" => compute fun first second =>
    if second = 0 then .error "division by zero" else .ok (first.tdiv second)
  | "%" => compute fun first second =>
    if second = 0 then .error "division by zero" else .ok (first.tmod second)
  | _ =>
    match Regex.read ⟨false, true⟩ (Bytes.ofString right) with
    | .error fault => .error fault.message
    | .ok regex =>
      match (Regex.sequence .start regex).findIn false (Bytes.ofString left) with
      | some found =>
        match Entries.get? 1 found.groups with
        | some group => .ok group.toStringLossy
        | none => if right.contains "\\(" then .ok "" else .ok found.found.length.repr
      | none => if right.contains "\\(" then .ok "" else .ok "0"

/-- The operators of `expr` that bind equally, from the tightest to the loosest. -/
def exprLevels : List (List String) :=
  [[":"], ["*", "/", "%"], ["+", "-"], ["=", "==", "!=", "<", "<=", ">", ">="], ["&"], ["|"]]

/-- A part of a text: from a position on, which counts from one, so many characters. -/
def exprPart (text : String) (position length : Int) : String :=
  if position ≤ 0 ∨ length ≤ 0 then ""
  else String.ofList ((text.toList.drop (position.toNat - 1)).take length.toNat)

/-- The first position in a text at which one of some characters stands. -/
def exprIndex (text characters : String) : Nat :=
  match text.toList.findIdx? characters.toList.contains with
  | some index => index + 1
  | none => 0

mutual

/-- Reads operands that are joined by the operators of the first levels. The last argument that was
read is needed for complaints. -/
def readExpr (fuel level : Nat) (last : Option String) (arguments : List String) : ExprReading :=
  match fuel, level with
  | 0, _ => .error "syntax error"
  | fuel + 1, 0 =>
    let shown (text : String) : String := quotedText (Bytes.ofString text)
    let missing : ExprReading := .error (match last with
      | some last => "syntax error: missing argument after " ++ shown last
      | none => "syntax error: missing argument")
    match arguments with
    | "(" :: inside => do
      let (value, rest) ← readExpr fuel exprLevels.length (some "(") inside
      match rest with
      | ")" :: rest => return (value, rest)
      | [] => throw ("syntax error: expecting ')' after " ++ shown (inside.getLast?.getD "("))
      | next :: _ => throw ("syntax error: expecting ')' instead of " ++ shown next)
    | ")" :: _ => .error "syntax error: unexpected ')'"
    | "+" :: text :: rest => .ok (text, rest)
    | ["+"] => .error "syntax error: missing argument after '+'"
    | "length" :: rest => do
      let (text, rest) ← readExpr fuel 0 (some "length") rest
      return (text.length.repr, rest)
    | "match" :: rest => do
      let (text, rest) ← readExpr fuel 0 (some "match") rest
      let (pattern, rest) ← readExpr fuel 0 (some text) rest
      return (← exprValue text ":" pattern, rest)
    | "index" :: rest => do
      let (text, rest) ← readExpr fuel 0 (some "index") rest
      let (characters, rest) ← readExpr fuel 0 (some text) rest
      return ((exprIndex text characters).repr, rest)
    | "substr" :: rest => do
      let (text, rest) ← readExpr fuel 0 (some "substr") rest
      let (position, rest) ← readExpr fuel 0 (some text) rest
      let (length, rest) ← readExpr fuel 0 (some position) rest
      let part := match integer? position, integer? length with
        | some position, some length => exprPart text position length
        | _, _ => ""
      return (part, rest)
    | value :: rest => .ok (value, rest)
    | [] => missing
  | fuel + 1, level + 1 => do
    let (left, rest) ← readExpr fuel level last arguments
    readExprTail fuel level left rest

/-- Reads the operands that follow the first one. -/
def readExprTail (fuel level : Nat) (left : String) (arguments : List String) : ExprReading :=
  match fuel, arguments with
  | 0, _ => .error "syntax error"
  | fuel + 1, operator :: rest =>
    if (exprLevels.getD level []).contains operator then do
      let (right, rest) ← readExpr fuel level (some operator) rest
      let value ← match operator with
        | "&" => .ok (if isNull left || isNull right then "0" else left)
        | "|" => .ok (if !isNull left then left else if isNull right then "0" else right)
        | operator => exprValue left operator right
      readExprTail fuel level value rest
    else .ok (left, arguments)
  | _, [] => .ok (left, [])

end

/-- Prints the value of the expression in the arguments, and says by its status whether it counts as
none. -/
def expr (request : Request) : Effect :=
  let arguments := request.texts
  if arguments.isEmpty then request.failing 2 ("missing operand" ++ request.hint)
  else match readExpr (16 * arguments.length + 16) exprLevels.length none arguments with
    | .error message => request.failing 2 message
    | .ok (_, argument :: _) =>
      let quoted := quotedText (Bytes.ofString argument)
      request.failing 2 ("syntax error: unexpected argument " ++ quoted)
    | .ok (value, []) =>
      { request.printing (Bytes.ofString (value ++ "\n")) with
        status := if isNull value then 1 else 0 }

end SyntaxFold.Sandbox.Utility
