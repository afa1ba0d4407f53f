import SyntaxFold.Error
import SyntaxFold.Json.Basic

/-!
# Values

A reduction turns syntax into a value. Besides plain data there are functions, which exist only on
the way to a result, and nodes that a reduction let through. Whole numbers that fit 64 bits are
integers and all other numbers are floats; `Value.number` is the one place that decides which.

Functions are described, not opaque: `Callable` lists every function that a reduction can meet,
with what it has captured.
-/

namespace SyntaxFold

/-- The base of a logarithm formula. -/
inductive LogBase where
  | natural
  | two
  deriving DecidableEq, Repr

/-- A mathematical function of one number. -/
inductive UnaryMath where
  | abs
  | ceil
  | floor
  | round
  | trunc
  | sqrt
  | cbrt
  | exp
  | log
  | log2
  | log10
  | sin
  | cos
  | tan
  | sign
  deriving DecidableEq, Repr

/-- A mathematical function of two numbers. -/
inductive BinaryMath where
  | pow
  | atan2
  | hypot
  deriving DecidableEq, Repr

/-- The least or the greatest of any count of numbers. -/
inductive Extremum where
  | min
  | max
  deriving DecidableEq, Repr

/-- What a function of the caller's own does with its arguments. -/
inductive Behaviour where
  /-- Returns them as a sequence. -/
  | collect
  /-- Returns the first of them, or null. -/
  | first
  /-- Fails. -/
  | refuse
  /-- Whatever the caller says that its function of this index does. -/
  | foreign (index : Nat)
  deriving DecidableEq, Repr

mutual

/-- A value that a node reduces to. -/
inductive Value where
  | null
  | bool (value : Bool)
  | integer (value : Int64)
  | float (value : Float)
  | string (text : String)
  | sequence (items : List Value)
  | mapping (entries : List (String × Value))
  /-- A function. Two functions are the same when their stamps are; whoever makes a function
  chooses the stamp, and reduction itself uses only the stamp zero. -/
  | function (stamp : Nat) (body : Callable)
  /-- A node that was let through as it is. -/
  | node (tree : Json)

/-- A function, with what it has captured. -/
inductive Callable where
  /-- Turns a sequence of records into a mapping by their names. -/
  | nameMap
  /-- Returns its argument; it stands in for a function that is applied later. -/
  | standIn (name : String)
  | unaryMath (function : UnaryMath)
  | binaryMath (function : BinaryMath)
  | extremum (function : Extremum)
  /-- The formula `x => scale * log(x)`. -/
  | logarithm (base : LogBase) (scale : Float)
  /-- Calls its argument on each captured item. -/
  | mapItems (items : List Value)
  /-- Returns the captured mapping, whatever its arguments are. -/
  | constant (name : String) (entries : List (String × Value))
  /-- A function of the caller's own; a negative arity allows any number of arguments. -/
  | custom (name : String) (arity : Int) (behaviour : Behaviour)

end

instance : Inhabited Value := ⟨.null⟩

/-- A 64-bit integer as the nearest double. -/
def floatOfInt64 (value : Int64) : Float := Float.ofInt value.toInt

/-- The 64-bit integer that equals a double, if there is one. -/
def int64OfFloat? (value : Float) : Option Int64 :=
  ((Dyadic.ofFloat? value).bind Dyadic.toInt?).bind Numeral.int64OfInt?

namespace Value

/-- A number, which is an integer whenever it equals one of 64 bits. -/
def number (value : Float) : Value :=
  match int64OfFloat? value with
  | some whole => integer whole
  | none => float value

/-- The type of a value. -/
def type : Value → ValueType
  | null => .null
  | bool _ => .boolean
  | integer _ => .integer
  | float _ => .float
  | string _ => .string
  | sequence _ => .sequence
  | mapping _ => .mapping
  | function _ _ => .function
  | node _ => .node

/-- Whether a value has a text of its own under concatenation. -/
def isScalar : Value → Bool
  | null | bool _ | integer _ | float _ | string _ => true
  | _ => false

/-- The integer that a value is. -/
def int64? : Value → Option Int64
  | integer value => some value
  | _ => none

/-- The number that a value is, as a double. -/
def float? : Value → Option Float
  | integer value => some (floatOfInt64 value)
  | float value => some value
  | _ => none

/-- The text that a value is. -/
def string? : Value → Option String
  | string text => some text
  | _ => none

/-- The items of a sequence. -/
def sequence? : Value → Option (List Value)
  | sequence items => some items
  | _ => none

/-- The entries of a mapping. -/
def mapping? : Value → Option (List (String × Value))
  | mapping entries => some entries
  | _ => none

/-- The tree of a node that was let through. -/
def node? : Value → Option Json
  | node tree => some tree
  | _ => none

/-- The value under a key of a mapping. -/
def get? (key : String) (value : Value) : Option Value :=
  value.mapping?.bind (Entries.get? key)

end Value

end SyntaxFold
