import SyntaxFold.Json.Token

/-!
# Reading JSON text

The reader consumes tokens one after the other and keeps the containers that are still open on a
stack, so that nesting costs no recursion and can be bounded. When a key occurs twice in an object
it keeps its first position and its last value.
-/

namespace SyntaxFold.Json

/-- A container that is still open: its items so far, newest first, or its entries so far together
with the key whose value comes next. -/
inductive Frame where
  | array (items : List Json)
  | object (entries : List (String × Json)) (key : String)

/-- What the reader expects next. -/
inductive Expected where
  /-- A value. -/
  | value
  /-- The first item of an array, or its end. -/
  | firstItem
  /-- The first key of an object, or its end. -/
  | firstKey
  /-- A key of an object with the given entries. -/
  | key (entries : List (String × Json))
  /-- The colon behind a key. -/
  | colon (entries : List (String × Json)) (key : String)
  /-- A comma or the end of the array. -/
  | nextItem (items : List Json)
  /-- A comma or the end of the object. -/
  | nextKey (entries : List (String × Json))
  /-- Nothing but the end of the text. -/
  | nothing (root : Json)

/-- The reader: what it expects, and the containers around it, innermost first. -/
structure Reader where
  expected : Expected
  stack : List Frame

namespace Reader

/-- Puts a complete value where it belongs. -/
def complete (value : Json) : List Frame → Reader
  | [] => ⟨.nothing value, []⟩
  | .array items :: rest => ⟨.nextItem (value :: items), rest⟩
  | .object entries key :: rest => ⟨.nextKey (Entries.insert key value entries), rest⟩

/-- Begins a value with a token. -/
def beginValue (maxNesting : Option Nat) (stack : List Frame) (token : Token) : Option Reader :=
  let room := match maxNesting with
    | some limit => decide (stack.length < limit)
    | none => true
  match token with
  | .scalar value => some (complete value stack)
  | .openArray => if room then some ⟨.firstItem, stack⟩ else none
  | .openObject => if room then some ⟨.firstKey, stack⟩ else none
  | _ => none

/-- Reads one token. -/
def step (maxNesting : Option Nat) (reader : Reader) (token : Token) : Option Reader :=
  match reader.expected, token with
  | .value, token => beginValue maxNesting reader.stack token
  | .firstItem, .closeArray => some (complete (.array []) reader.stack)
  | .firstItem, token => beginValue maxNesting (.array [] :: reader.stack) token
  | .nextItem items, .comma => some ⟨.value, .array items :: reader.stack⟩
  | .nextItem items, .closeArray => some (complete (.array items.reverse) reader.stack)
  | .firstKey, .closeObject => some (complete (.object []) reader.stack)
  | .firstKey, .scalar (.string key) => some ⟨.colon [] key, reader.stack⟩
  | .key entries, .scalar (.string key) => some ⟨.colon entries key, reader.stack⟩
  | .colon entries key, .colon => some ⟨.value, .object entries key :: reader.stack⟩
  | .nextKey entries, .comma => some ⟨.key entries, reader.stack⟩
  | .nextKey entries, .closeObject => some (complete (.object entries) reader.stack)
  | _, _ => none

end Reader

/-- The data that a text denotes; `none` when the text is not JSON or nests deeper than allowed. -/
def ofText? (maxNesting : Option Nat) (text : String) : Option Json := do
  let tokens ← Token.scan text.toList
  let reader ← tokens.foldlM (Reader.step maxNesting) ⟨.value, []⟩
  match reader.expected with
  | .nothing root => some root
  | _ => none

end SyntaxFold.Json
