import SyntaxFold.Entries
import SyntaxFold.Numeral

/-!
# JSON data

Syntax trees and plain data arrive as JSON. Objects keep the order of their keys. A number is
either an integer, kept exactly, or a double; an integer that does not fit 64 signed bits is still
an integer here, but `int64?` does not see it.
-/

namespace SyntaxFold

/-- JSON data. The reader makes only integers between `-2 ^ 63` and `2 ^ 64 - 1` and only objects
whose keys are distinct. -/
inductive Json where
  | null
  | bool (value : Bool)
  | integer (value : Int)
  | float (value : Float)
  | string (text : String)
  | array (items : List Json)
  | object (entries : List (String × Json))
  deriving Inhabited

namespace Json

/-- The value under a key, when the data is an object that has the key. -/
def get? (key : String) : Json → Option Json
  | object entries => Entries.get? key entries
  | _ => none

/-- The text of a string. -/
def string? : Json → Option String
  | string text => some text
  | _ => none

/-- The items of an array. -/
def array? : Json → Option (List Json)
  | array items => some items
  | _ => none

/-- An integer that fits 64 signed bits. -/
def int64? : Json → Option Int64
  | integer value => Numeral.int64OfInt? value
  | _ => none

/-- The text under a key. -/
def getString? (key : String) (data : Json) : Option String := (data.get? key).bind string?

mutual

/-- Equality of data: objects are compared without regard to the order of their entries, and
floats as numbers, so a NaN differs from itself. -/
def same : Json → Json → Bool
  | null, null => true
  | bool left, bool right => left == right
  | integer left, integer right => left == right
  | float left, float right => left == right
  | string left, string right => left == right
  | array left, array right => sameItems left right
  | object left, object right => left.length == right.length && sameEntries left right
  | _, _ => false

/-- Equality of arrays, item by item. -/
def sameItems : List Json → List Json → Bool
  | [], [] => true
  | left :: lefts, right :: rights => same left right && sameItems lefts rights
  | _, _ => false

/-- Whether every entry on the left is found, with an equal value, on the right. -/
def sameEntries : List (String × Json) → List (String × Json) → Bool
  | [], _ => true
  | (key, left) :: rest, entries =>
    (match Entries.get? key entries with
      | some right => same left right
      | none => false) && sameEntries rest entries

end

instance : BEq Json := ⟨same⟩

theorem sizeOf_lt_of_get? {key : String} {data value : Json} (found : data.get? key = some value) :
    sizeOf value < sizeOf data := by
  cases data with
  | object entries =>
    have : sizeOf value < sizeOf entries := Entries.sizeOf_lt_of_get? found
    simp only [object.sizeOf_spec]
    omega
  | _ => simp [get?] at found

theorem sizeOf_lt_of_array? {data : Json} {items : List Json} (found : data.array? = some items) :
    sizeOf items < sizeOf data := by
  cases data <;> simp_all [array?]

end Json

end SyntaxFold
