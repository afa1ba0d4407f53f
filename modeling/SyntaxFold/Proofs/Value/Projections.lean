import SyntaxFold.Value.Basic

/-!
# Values of one type

A value is asked for its text, its number, its items, its node or one of its fields. It has one only
if it is of the right type.
-/

namespace SyntaxFold.Value

theorem string?_eq_some_iff {value : Value} {text : String} :
    value.string? = some text ↔ value = .string text := by
  cases value <;> simp [string?]

theorem sequence?_eq_some_iff {value : Value} {items : List Value} :
    value.sequence? = some items ↔ value = .sequence items := by
  cases value <;> simp [sequence?]

theorem node?_eq_some_iff {value : Value} {tree : Json} :
    value.node? = some tree ↔ value = .node tree := by
  cases value <;> simp [node?]

theorem get?_eq_some_iff {value found : Value} {key : String} :
    value.get? key = some found ↔
      ∃ entries, value = .mapping entries ∧ Entries.get? key entries = some found := by
  cases value <;> simp [get?, mapping?]

theorem bind_string?_eq_some_iff {found : Option Value} {text : String} :
    found.bind string? = some text ↔ found = some (.string text) := by
  simp only [Option.bind_eq_some_iff, string?_eq_some_iff, exists_eq_right]

theorem bind_node?_eq_some_iff {found : Option Value} {tree : Json} :
    found.bind node? = some tree ↔ found = some (.node tree) := by
  simp only [Option.bind_eq_some_iff, node?_eq_some_iff, exists_eq_right]

end SyntaxFold.Value
