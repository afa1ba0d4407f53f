import SyntaxFold.Decimal.Layout
import SyntaxFold.Node.Text
import SyntaxFold.Text.Quoted
import SyntaxFold.Value.Basic

/-!
# Texts of values

A value has two texts. `Value.display` is what the value contributes to a concatenation and how a
number is spelled as a key. `Value.inspect` shows the structure of a value and tells a string from
a number.
-/

namespace SyntaxFold

/-- The name of a mathematical function of one number. -/
def UnaryMath.name : UnaryMath → String
  | abs => "abs"
  | ceil => "ceil"
  | floor => "floor"
  | round => "round"
  | trunc => "trunc"
  | sqrt => "sqrt"
  | cbrt => "cbrt"
  | exp => "exp"
  | log => "log"
  | log2 => "log2"
  | log10 => "log10"
  | sin => "sin"
  | cos => "cos"
  | tan => "tan"
  | sign => "sign"

/-- The name of a mathematical function of two numbers. -/
def BinaryMath.name : BinaryMath → String
  | pow => "pow"
  | atan2 => "atan2"
  | hypot => "hypot"

/-- The name of an extremum. -/
def Extremum.name : Extremum → String
  | min => "min"
  | max => "max"

/-- The name of a logarithm formula. -/
def LogBase.formulaName : LogBase → String
  | natural => "semitones(log)"
  | two => "semitones(log2)"

namespace Callable

/-- The name of a function. -/
def name : Callable → String
  | nameMap => "toNameMap"
  | standIn name => name
  | unaryMath function => function.name
  | binaryMath function => function.name
  | extremum function => function.name
  | logarithm base _ => base.formulaName
  | mapItems _ => "map"
  | constant name _ => name
  | custom name _ _ => name

/-- How many arguments a function takes; any number when negative. -/
def arity : Callable → Int
  | nameMap | standIn _ | unaryMath _ | logarithm _ _ | mapItems _ => 1
  | binaryMath _ => 2
  | extremum _ | constant _ _ => -1
  | custom _ arity _ => arity

/-- The text that shows a function of the registry. -/
def inspect (function : Callable) : String := "NativeFn(" ++ function.name ++ ")"

end Callable

namespace Value

/-- Numbers in running text are positional from `1e-6` up to `1e21`, and both zeros are `0`. -/
def displayLayout : Layout where
  tie := .awayFromZero
  leastPositional := -6
  greatestPositional := 20
  wholeEnding := ""
  exponentPlus := "+"
  zero := "0"
  negativeZero := "0"
  nan := "NaN"
  infinity := "Infinity"
  negativeInfinity := "-Infinity"

/-- Where structure is shown a float always has a point or an exponent, and is positional from
`1e-4` up to `1e16`. -/
def inspectLayout : Layout where
  tie := .awayFromZero
  leastPositional := -4
  greatestPositional := 15
  wholeEnding := ".0"
  exponentPlus := ""
  zero := "0.0"
  negativeZero := "-0.0"
  nan := "NaN"
  infinity := "inf"
  negativeInfinity := "-inf"

/-- The text that stands for a node that was let through. -/
def nodeText (tree : Json) : String := "<node " ++ (kindOf tree).getD "?" ++ ">"

mutual

/-- The text of a value inside other text. -/
def display : Value → String
  | null => "null"
  | bool value => if value then "true" else "false"
  | integer value => value.toInt.repr
  | float value => displayLayout.write value
  | string text => text
  | sequence items => ",".intercalate (displayItems items)
  | mapping _ => "[object Object]"
  | function _ body => "function " ++ body.name
  | node tree => nodeText tree

/-- The texts of the items of a sequence. -/
def displayItems : List Value → List String
  | [] => []
  | item :: rest => display item :: displayItems rest

end

mutual

/-- The text that shows the structure of a value. -/
def inspect : Value → String
  | null => "null"
  | bool value => if value then "true" else "false"
  | integer value => value.toInt.repr
  | float value => inspectLayout.write value
  | string text => Text.quoted text
  | sequence items => "[" ++ ", ".intercalate (inspectItems items) ++ "]"
  | mapping entries => "\x7b" ++ ", ".intercalate (inspectEntries entries) ++ "\x7d"
  | function _ body => "<function " ++ body.name ++ ">"
  | node tree => nodeText tree

/-- The texts of the items of a sequence. -/
def inspectItems : List Value → List String
  | [] => []
  | item :: rest => inspect item :: inspectItems rest

/-- The texts of the entries of a mapping. -/
def inspectEntries : List (String × Value) → List String
  | [] => []
  | (key, value) :: rest =>
    (Text.quoted key ++ ": " ++ inspect value) :: inspectEntries rest

end

end Value

end SyntaxFold
