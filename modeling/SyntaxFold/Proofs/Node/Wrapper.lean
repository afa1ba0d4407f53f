import SyntaxFold.Node.Wrapper

/-!
# Looking through wrappers

`unwrap` is one step for each wrapper, and leaves every other node as it is. So the shape of what it
comes to is the shape that a tree presents inside any number of wrappers.
-/

namespace SyntaxFold

theorem unwrap_of_wrapper {node expression : Json}
    (shape : Node.ofJson node = .ok (.wrapper expression)) : unwrap node = unwrap expression := by
  rw [unwrap]
  split
  · next found =>
      cases found.symm.trans shape
      rfl
  · next other => exact absurd shape (other expression)

theorem unwrap_of_no_wrapper {node : Json}
    (single : ∀ expression, Node.ofJson node ≠ .ok (.wrapper expression)) : unwrap node = node := by
  rw [unwrap]
  split
  · next found => exact absurd found (single _)
  · rfl

/-- Inside any number of wrappers, the tree has the shape. -/
inductive Json.Presents (node : Node) : Json → Prop
  | here {tree : Json} : Node.ofJson tree = .ok node → Presents node tree
  | wrapper {tree expression : Json} :
      Node.ofJson tree = .ok (.wrapper expression) → Presents node expression → Presents node tree

/-- A tree presents a shape, other than a wrapper, exactly when what is inside has it. -/
theorem Json.presents_iff {node : Node} (single : ∀ expression, node ≠ .wrapper expression)
    {tree : Json} : Presents node tree ↔ Node.ofJson (unwrap tree) = .ok node := by
  constructor
  · intro presents
    induction presents with
    | here shape =>
        rw [unwrap_of_no_wrapper]
        · exact shape
        · intro expression isWrapper
          cases shape.symm.trans isWrapper
          exact single expression rfl
    | wrapper shape _ ih => rw [unwrap_of_wrapper shape, ih]
  · intro shape
    fun_induction unwrap tree with
    | case1 tree expression isWrapper _ ih => exact .wrapper isWrapper (ih shape)
    | case2 tree _ => exact .here shape

theorem isIdentifier_iff {name : String} {node : Json} :
    isIdentifier name node = true ↔ Node.ofJson node = .ok (.identifier name) := by
  unfold isIdentifier
  split
  · next found shape => simp [shape]
  · next other =>
      constructor
      · intro impossible
        cases impossible
      · intro shape
        exact absurd shape (other name)

end SyntaxFold
