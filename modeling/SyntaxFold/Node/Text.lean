import SyntaxFold.Error
import SyntaxFold.Json.Basic

/-!
# Fields of nodes

Small readers for the fields that nodes share: the kind, the name of a declaration, and the text of
an identifier. Identifiers that begin with two underscores are escaped in trees by one more; the
readers undo that.
-/

namespace SyntaxFold

/-- The kind of a node, when it is a name. -/
def kindOf (node : Json) : Option String := node.getString? "kind"

/-- Undoes the escaping of leading underscores: of three or more the first is dropped. -/
def unescape (text : String) : String :=
  match text.toList with
  | '_' :: '_' :: '_' :: rest => String.ofList ('_' :: '_' :: rest)
  | _ => text

/-- The text of an identifier node. -/
def identifierText (node : Json) : Option String :=
  (node.getString? "escapedText").map unescape

/-- The name of a declaration, when it is a plain identifier. -/
def declarationName (node : Json) : Option String := (node.get? "name").bind identifierText

/-- What a node of the given kind must have in a field. -/
def require {α : Type} (kind field : String) (found : Option α) : Except FoldError α :=
  match found with
  | some value => .ok value
  | none => .error (.malformedNode kind field)

/-- A field that a node must have. -/
def requireField (kind field : String) (node : Json) : Except FoldError Json :=
  require kind field (node.get? field)

/-- A field that must hold an array. -/
def requireArray (kind field : String) (node : Json) : Except FoldError (List Json) :=
  require kind field ((node.get? field).bind Json.array?)

/-- A field that must hold text. -/
def requireText (kind field : String) (node : Json) : Except FoldError String :=
  require kind field (node.getString? field)

@[simp] theorem require_eq_ok_iff {α : Type} {kind field : String} {found : Option α} {value : α} :
    require kind field found = .ok value ↔ found = some value := by
  cases found <;> simp [require]

theorem requireArray_eq_ok_iff {kind field : String} {node : Json} {items : List Json} :
    requireArray kind field node = .ok items ↔ node.get? field = some (.array items) := by
  rw [requireArray, require_eq_ok_iff, Option.bind_eq_some_iff]
  constructor
  · rintro ⟨value, present, isArray⟩
    cases value with
    | array found =>
      cases isArray
      exact present
    | _ => cases isArray
  · intro present
    exact ⟨.array items, present, rfl⟩

theorem sizeOf_lt_of_requireField {kind field : String} {node value : Json}
    (found : requireField kind field node = .ok value) : sizeOf value < sizeOf node :=
  Json.sizeOf_lt_of_get? (require_eq_ok_iff.1 found)

theorem sizeOf_lt_of_requireArray {kind field : String} {node : Json} {items : List Json}
    (found : requireArray kind field node = .ok items) : sizeOf items < sizeOf node := by
  obtain ⟨value, present, isArray⟩ := Option.bind_eq_some_iff.1 (require_eq_ok_iff.1 found)
  exact Nat.lt_trans (Json.sizeOf_lt_of_array? isArray) (Json.sizeOf_lt_of_get? present)

end SyntaxFold
