import SyntaxFold.Node.Basic

/-!
# Wrappers and names

Looking through the parentheses and type assertions around a node, and asking whether a node is a
given name.
-/

namespace SyntaxFold

/-- The node inside any number of parentheses and type assertions. -/
def unwrap (node : Json) : Json :=
  match shape : Node.ofJson node with
  | .ok (.wrapper expression) =>
    have := Node.fits_of_ofJson shape
    unwrap expression
  | _ => node
termination_by sizeOf node
decreasing_by exact this

/-- Whether a node is the identifier of the given name. -/
def isIdentifier (name : String) (node : Json) : Bool :=
  match Node.ofJson node with
  | .ok (.identifier found) => found == name
  | _ => false

theorem sizeOf_unwrap_le (node : Json) : sizeOf (unwrap node) ≤ sizeOf node := by
  fun_induction unwrap node with
  | case1 node expression shape smaller ih =>
    exact Nat.le_trans ih (Nat.le_of_lt smaller)
  | case2 => exact Nat.le_refl _

end SyntaxFold
