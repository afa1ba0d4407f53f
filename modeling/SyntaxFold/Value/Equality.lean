import SyntaxFold.Value.Basic

/-!
# Equality of values

Values of different types are never equal, so an integer differs from a float. Floats are compared
as numbers, functions by their stamps, and mappings without regard to the order of their entries.
-/

namespace SyntaxFold.Value

mutual

/-- Equality of values. -/
def same : Value → Value → Bool
  | null, null => true
  | bool left, bool right => left == right
  | integer left, integer right => left == right
  | float left, float right => left == right
  | string left, string right => left == right
  | sequence left, sequence right => sameItems left right
  | mapping left, mapping right => left.length == right.length && sameEntries left right
  | function left _, function right _ => left == right
  | node left, node right => left == right
  | _, _ => false

/-- Equality of sequences, item by item. -/
def sameItems : List Value → List Value → Bool
  | [], [] => true
  | left :: lefts, right :: rights => same left right && sameItems lefts rights
  | _, _ => false

/-- Whether every entry on the left is found, with an equal value, on the right. -/
def sameEntries : List (String × Value) → List (String × Value) → Bool
  | [], _ => true
  | (key, left) :: rest, entries =>
    (match Entries.get? key entries with
      | some right => same left right
      | none => false) && sameEntries rest entries

end

instance : BEq Value := ⟨same⟩

end SyntaxFold.Value
