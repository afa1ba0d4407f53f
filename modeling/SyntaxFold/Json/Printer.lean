import SyntaxFold.Decimal.Layout
import SyntaxFold.Json.Basic

/-!
# Writing JSON text

Data is written either compactly or with one line per item and two spaces per level. Only quotes,
backslashes and control characters are escaped. Floats keep a point or an exponent, so that they
read back as floats; infinities and NaN have no JSON text and become `null`.
-/

namespace SyntaxFold.Json

/-- Floats are positional from `1e-5` up to `1e16`, whole ones end in `.0`, and positive exponents
carry a plus. -/
def floatLayout : Layout where
  tie := .toEven
  leastPositional := -5
  greatestPositional := 15
  wholeEnding := ".0"
  exponentPlus := "+"
  zero := "0.0"
  negativeZero := "-0.0"
  nan := "null"
  infinity := "null"
  negativeInfinity := "null"

/-- The text of a character inside quotes. -/
def quoteChar (c : Char) : List Char :=
  match c with
  | '"' => ['\\', '"']
  | '\\' => ['\\', '\\']
  | '\x08' => ['\\', 'b']
  | '\x0c' => ['\\', 'f']
  | '\n' => ['\\', 'n']
  | '\r' => ['\\', 'r']
  | '\t' => ['\\', 't']
  | _ =>
    if c < ' ' then
      ['\\', 'u', '0', '0', Nat.digitChar (c.toNat / 16), Nat.digitChar (c.toNat % 16)]
    else [c]

/-- A text in quotes. -/
def quote (text : String) : String :=
  "\"" ++ String.ofList (text.toList.flatMap quoteChar) ++ "\""

/-- The text of data without inner structure. -/
def scalarText : Json → String
  | null => "null"
  | bool value => if value then "true" else "false"
  | integer value => value.repr
  | float value => floatLayout.write value
  | string text => quote text
  | array _ => "[]"
  | object _ => "\x7b\x7d"

mutual

/-- The text of data on one line, without spaces. -/
def compact : Json → String
  | array items => "[" ++ ",".intercalate (compactItems items) ++ "]"
  | object entries => "\x7b" ++ ",".intercalate (compactEntries entries) ++ "\x7d"
  | scalar => scalarText scalar

/-- The texts of the items of an array. -/
def compactItems : List Json → List String
  | [] => []
  | item :: rest => compact item :: compactItems rest

/-- The texts of the entries of an object. -/
def compactEntries : List (String × Json) → List String
  | [] => []
  | (key, value) :: rest => (quote key ++ ":" ++ compact value) :: compactEntries rest

end

/-- Puts lines between two brackets, each line on its own and indented one level deeper. -/
def block (opening closing : String) (level : Nat) (lines : List String) : String :=
  if lines.isEmpty then opening ++ closing
  else
    let margin (level : Nat) : String := "\n" ++ String.ofList (List.replicate (2 * level) ' ')
    let separator := "," ++ margin (level + 1)
    opening ++ margin (level + 1) ++ separator.intercalate lines ++ margin level ++ closing

mutual

/-- The text of data over several lines, at a given level of indentation. -/
def prettyAt (level : Nat) : Json → String
  | array items => block "[" "]" level (prettyItems (level + 1) items)
  | object entries => block "\x7b" "\x7d" level (prettyEntries (level + 1) entries)
  | scalar => scalarText scalar

/-- The texts of the items of an array. -/
def prettyItems (level : Nat) : List Json → List String
  | [] => []
  | item :: rest => prettyAt level item :: prettyItems level rest

/-- The texts of the entries of an object. -/
def prettyEntries (level : Nat) : List (String × Json) → List String
  | [] => []
  | (key, value) :: rest =>
    (quote key ++ ": " ++ prettyAt level value) :: prettyEntries level rest

end

/-- The text of data over several lines. -/
def pretty (data : Json) : String := prettyAt 0 data

end SyntaxFold.Json
