import SyntaxFold.Value.Display

/-!
# Operators

The operators that are folded, on values. Integer arithmetic is exact as long as the result fits 64
bits; what does not fit is computed on doubles, and so is everything that involves a float. A
result that equals an integer is an integer. Addition joins texts as soon as one side is a string.
-/

namespace SyntaxFold

/-- An operator between two operands. -/
inductive BinaryOperator where
  | add
  | subtract
  | multiply
  | divide
  | shiftRight
  deriving DecidableEq, Repr

namespace BinaryOperator

/-- The operator that a token stands for. -/
def ofToken? (token : String) : Option BinaryOperator :=
  match token with
  | "PlusToken" => some add
  | "MinusToken" => some subtract
  | "AsteriskToken" => some multiply
  | "SlashToken" => some divide
  | "GreaterThanGreaterThanToken" => some shiftRight
  | _ => none

/-- How an operator is written. -/
def symbol : BinaryOperator → String
  | add => "+"
  | subtract => "-"
  | multiply => "*"
  | divide => "/"
  | shiftRight => ">>"

/-- The error of operands whose types do not fit the operator. -/
def invalid (operator : BinaryOperator) (left right : Value) : FoldError :=
  .invalidOperands operator.symbol left.type right.type

/-- Arithmetic on numbers: exact on integers where the result fits, on doubles otherwise. -/
def arithmetic (operator : BinaryOperator) (exact : Int → Int → Int)
    (rounded : Float → Float → Float) (left right : Value) : Except FoldError Value :=
  match left, right with
  | .integer a, .integer b =>
    match Numeral.int64OfInt? (exact a.toInt b.toInt) with
    | some whole => .ok (.integer whole)
    | none => .ok (.number (rounded (floatOfInt64 a) (floatOfInt64 b)))
  | _, _ =>
    match left.float?, right.float? with
    | some a, some b => .ok (.number (rounded a b))
    | _, _ => .error (operator.invalid left right)

/-- Whether a value is a string. -/
def isString : Value → Bool
  | .string _ => true
  | _ => false

/-- Concatenation when one side is a string and the other has a text, addition otherwise. -/
def plus (left right : Value) : Except FoldError Value :=
  if isString left || isString right then
    if left.isScalar && right.isScalar then .ok (.string (left.display ++ right.display))
    else .error (add.invalid left right)
  else arithmetic add (· + ·) (· + ·) left right

/-- Division takes place on doubles; an exact quotient is an integer again. -/
def quotient (left right : Value) : Except FoldError Value :=
  match left.float?, right.float? with
  | some a, some b => .ok (.number (a / b))
  | _, _ => .error (divide.invalid left right)

/-- The arithmetic shift of an integer. After 63 places only the sign is left, so greater amounts
change nothing. -/
def shifted (left right : Value) : Except FoldError Value :=
  match left, right with
  | .integer a, .integer b =>
    if 0 ≤ b.toInt then
      .ok (.integer (Int64.ofInt (a.toInt >>> min b.toInt.toNat 63)))
    else .error (shiftRight.invalid left right)
  | _, _ => .error (shiftRight.invalid left right)

/-- The result of an operator on two values. -/
def apply (operator : BinaryOperator) (left right : Value) : Except FoldError Value :=
  match operator with
  | add => plus left right
  | subtract => arithmetic subtract (· - ·) (· - ·) left right
  | multiply => arithmetic multiply (· * ·) (· * ·) left right
  | divide => quotient left right
  | shiftRight => shifted left right

end BinaryOperator

/-- The negative of a number. The negative of the least integer is a float. -/
def Value.negate : Value → Except FoldError Value
  | .integer value =>
    match Numeral.int64OfInt? (-value.toInt) with
    | some negative => .ok (.integer negative)
    | none => .ok (.float (-floatOfInt64 value))
  | .float value => .ok (.number (-value))
  | other => .error (.invalidOperand "MinusToken" other.type)

end SyntaxFold
