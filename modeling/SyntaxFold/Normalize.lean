import SyntaxFold.KindTable

/-!
# Normalization

A raw tree holds integer codes under the key `kind`. Normalization puts the name of the kind in the
place of each such code, wherever in the tree it stands, and leaves everything else as it is. A
number under `kind` that is no 64-bit integer is not a code, and neither is a number inside an
array under `kind`.
-/

namespace SyntaxFold

namespace Json

mutual

/-- Puts kind names in the place of kind codes, in document order. -/
def normalize (kinds : KindTable) : Json → Except FoldError Json
  | array items => (normalizeItems kinds items).map array
  | object entries => (normalizeEntries kinds entries).map object
  | leaf => .ok leaf

/-- Normalizes the items of an array. -/
def normalizeItems (kinds : KindTable) : List Json → Except FoldError (List Json)
  | [] => .ok []
  | item :: rest => do
    let item ← normalize kinds item
    let rest ← normalizeItems kinds rest
    return item :: rest

/-- Normalizes the entries of an object. -/
def normalizeEntries (kinds : KindTable) :
    List (String × Json) → Except FoldError (List (String × Json))
  | [] => .ok []
  | (key, value) :: rest => do
    let value ←
      match if key = "kind" then value.int64? else none with
      | some code => (kinds.name code).map string
      | none => normalize kinds value
    let rest ← normalizeEntries kinds rest
    return (key, value) :: rest

end

end Json

end SyntaxFold
