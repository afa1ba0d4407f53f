import SyntaxFold.Proofs.Reduction.Supply
import SyntaxFold.Proofs.Reduction.Unrolling

/-!
# Resolved values

When everything is resolved no node is left: if the tables supply none, then the value of a
reduction contains none, neither in its sequences and mappings nor in what its functions have
captured. The prelude and the functions of `Math` supply none.
-/

namespace SyntaxFold

open Outcome Value

/-- A value that is no node itself. A foreign function may have captured one, so it is not counted
among these values. -/
def Value.NotNode : Value → Prop
  | .node _ => False
  | .function _ body => ¬ body.IsForeign
  | _ => True

/-- No node occurs anywhere in a value, what its functions have captured included. -/
def Value.NodeFree (value : Value) : Prop := value.Everywhere NotNode

theorem Value.invariant_notNode : Invariant NotNode where
  null := trivial
  bool _ := trivial
  integer _ := trivial
  string _ := trivial
  sequence _ := trivial
  mapping _ := trivial
  number value := by
    unfold Value.number
    split <;> trivial
  overflow _ _ := trivial
  function _ _ known := known
  foreign _ _ isForeign := fun known => known isForeign

/-- A value that is resolved in tables which supply no node contains no node. The prelude
(`everywhere_prelude`) and `Math` (`everywhere_math`) supply none. -/
theorem Context.nodeFree_of_reduce [Host] (context : Context)
    (resolving : context.mode = .resolve) (supplies : context.environment.Supplies NotNode)
    (data : Json) (value : Value) (reduced : context.reduce data = .ok value) : value.NodeFree :=
  context.reduce_everywhere invariant_notNode supplies (Or.inl resolving) data value reduced

section Closure

attribute [local instance] Host.closed

theorem supplies_listScopes :
    (⟨.empty, .prelude, listScopes⟩ : Environment).Supplies NotNode :=
  everywhere_listScopes invariant_notNode

theorem Context.nodeFree_of_reduce_closure :
    let context : Context := ⟨⟨.empty, .prelude, listScopes⟩, .resolve, 256, 0⟩
    let tree := Tree.access (Tree.access Tree.this "items") "map"
    let value : Value := .function 0 (.mapItems [.integer 1, .string "a"])
    (context.mode = .resolve ∧ context.environment.Supplies NotNode ∧
      context.reduce tree = .ok value) ∧ value.NodeFree := by
  intro context tree value
  have reduced : context.reduce tree = .ok value := by
    rw [Context.reduce_eq_unrolled 4]
    rfl
  exact ⟨⟨rfl, supplies_listScopes, reduced⟩,
    Context.nodeFree_of_reduce context rfl supplies_listScopes tree value reduced⟩

end Closure

end SyntaxFold
