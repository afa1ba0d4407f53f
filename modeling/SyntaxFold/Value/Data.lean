import SyntaxFold.Value.Display

/-!
# Values and data

A value is written as JSON data, except that a function has no data; and the text of a numeric
literal is read as a value.
-/

namespace SyntaxFold

/-- The error of writing a value that holds a function, with the name of that function. -/
structure FunctionInData where
  function : String
  deriving DecidableEq, Repr

/-- The text of that error. -/
def FunctionInData.message (error : FunctionInData) : String :=
  "function `" ++ error.function ++ "` cannot be serialized"

/-- A double as data: infinities and NaN become null. -/
def Json.ofFloat (value : Float) : Json :=
  if (Dyadic.ofFloat? value).isSome then .float value else .null

namespace Value

mutual

/-- A value as data. Nodes that were let through are data already. -/
def toJson : Value → Except FunctionInData Json
  | null => .ok .null
  | bool value => .ok (.bool value)
  | integer value => .ok (.integer value.toInt)
  | float value => .ok (.ofFloat value)
  | string text => .ok (.string text)
  | sequence items => (itemsToJson items).map .array
  | mapping entries => (entriesToJson entries).map .object
  | function _ body => .error ⟨body.name⟩
  | node tree => .ok tree

/-- The items of a sequence as data. -/
def itemsToJson : List Value → Except FunctionInData (List Json)
  | [] => .ok []
  | item :: rest => do
    let item ← toJson item
    let rest ← itemsToJson rest
    return item :: rest

/-- The entries of a mapping as data. -/
def entriesToJson : List (String × Value) → Except FunctionInData (List (String × Json))
  | [] => .ok []
  | (key, value) :: rest => do
    let value ← toJson value
    let rest ← entriesToJson rest
    return (key, value) :: rest

end

/-- The value of a numeric literal. Underscores are ignored wherever they stand. Text that is a
64-bit integer is read exactly, other text as the nearest double. -/
def ofNumeral (text : String) : Except FoldError Value :=
  let plain := text.toList.filter (· != '_')
  match Numeral.int64? plain with
  | some whole => .ok (integer whole)
  | none =>
    match Numeral.float? plain with
    | some value => .ok (number value)
    | none => .error (.invalidNumber text)

end Value

end SyntaxFold
