import SyntaxFold.Value.Basic

/-!
# Mathematical functions

The functions of the `Math` scope on doubles. Halves are rounded upward, a NaN is ignored by the
extrema, and the length of a vector is rounded once from its exact square.
-/

namespace SyntaxFold

/-- The nearest integer; halves go up. Adding one half first could itself round up, so the distance
to the floor is compared instead. -/
def roundHalfUp (value : Float) : Float :=
  let floor := value.floor
  if value - floor ≥ 0.5 then floor + 1 else floor

/-- The sign of a number, or the number itself when it is zero or NaN. -/
def signOf (value : Float) : Float :=
  if value == 0 || value != value then value else if value < 0 then -1 else 1

/-- The integer part of a number. -/
def truncate (value : Float) : Float := if value < 0 then value.ceil else value.floor

/-- A function of one number. -/
def UnaryMath.apply : UnaryMath → Float → Float
  | abs => Float.abs
  | ceil => Float.ceil
  | floor => Float.floor
  | round => roundHalfUp
  | trunc => truncate
  | sqrt => Float.sqrt
  | cbrt => Float.cbrt
  | exp => Float.exp
  | log => Float.log
  | log2 => Float.log2
  | log10 => Float.log10
  | sin => Float.sin
  | cos => Float.cos
  | tan => Float.tan
  | sign => signOf

/-- The integer square root, found bit by bit from the given power of two downward. -/
def squareRoot (number : Nat) : (bits : Nat) → (root : Nat) → Nat
  | 0, root => root
  | bits + 1, root =>
    let candidate := root + (1 <<< bits)
    squareRoot number bits (if candidate * candidate ≤ number then candidate else root)

/-- The square root of `square * 4 ^ exponent`, rounded once. The square is widened until its root
has more bits than a double, and one further bit says whether the root is exact. -/
def rootOfSquare (square : Nat) (exponent : Int) : Float :=
  let widening : Nat := 64
  let wide := square <<< (2 * widening)
  let root := squareRoot wide (wide.log2 / 2 + 1) 0
  let sticky := if root * root = wide then 0 else 1
  Dyadic.nearest (2 * root + sticky) (exponent - widening - 1)

/-- The length of a vector. An infinite side makes it infinite even beside a NaN. -/
def vectorLength (left right : Float) : Float :=
  match Dyadic.ofFloat? left, Dyadic.ofFloat? right with
  | some a, some b =>
    let exponent := min a.exponent b.exponent
    let aligned (side : Dyadic) : Nat := side.significand <<< (side.exponent - exponent).toNat
    rootOfSquare (aligned a * aligned a + aligned b * aligned b) exponent
  | _, _ => if left.abs == 1 / 0 || right.abs == 1 / 0 then 1 / 0 else 0 / 0

/-- A function of two numbers. -/
def BinaryMath.apply : BinaryMath → Float → Float → Float
  | pow => Float.pow
  | atan2 => Float.atan2
  | hypot => vectorLength

/-- The better of two numbers; a NaN gives way to the other one. -/
def Extremum.pick (extremum : Extremum) (left right : Float) : Float :=
  if left != left then right
  else if right != right then left
  else match extremum with
    | min => if right < left then right else left
    | max => if left < right then right else left

/-- The number with which an extremum starts. -/
def Extremum.start : Extremum → Float
  | min => 1 / 0
  | max => -1 / 0

end SyntaxFold
