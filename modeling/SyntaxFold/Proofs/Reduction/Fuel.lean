import SyntaxFold.Proofs.Reduction.DepthLimit
import SyntaxFold.Proofs.Reduction.Parts

/-!
# How deeply reductions nest

A reduction with fuel applies the rules of nodes a given number of times inside each other and then
gives up. Between two lookups or calls each reduction is that of a part, which is lower than its
node; inside a lookup or call it is that of a part or of a node that the scopes bind, with room for
one lookup or call less. So the sum of the height of the tree and, for every lookup or call that is
left, of the greatest height that there is, goes down at every step, and fuel for it is enough, even
if the scopes lead back to themselves.
-/

namespace SyntaxFold

open Outcome

section Reductions

variable [Host]

namespace Context

/-- Reduction with fuel for a number of reductions inside each other. Where one more is needed, it
ends in the given outcome instead. -/
def reduceFuelled (exhausted : Except FoldError Value) :
    (fuel : Nat) → Context → Json → Except FoldError Value
  | 0, _, _ => exhausted
  | fuel + 1, context, data =>
      context.environment.rule
        (fun tree => do
          let inner ← context.enter
          reduceFuelled exhausted fuel inner tree)
        (fun mode => reduceFuelled exhausted fuel { context with mode := mode }) context.mode data

variable {exhausted : Except FoldError Value} {highest fuel : Nat} {context : Context}

/-- Fuel that is enough for a tree in the context that is entered is enough for it inside a lookup
or call. -/
theorem inside_eq_of_fuelled (resolving : context.mode.resolving = true) {tree : Json}
    (smaller : ∀ inner : Context, inner.environment = context.environment →
      inner.remaining + 1 = context.remaining →
        reduceFuelled exhausted fuel inner tree = inner.reduce tree) :
    (context.enter >>= fun inner => reduceFuelled exhausted fuel inner tree) =
      context.inside tree := by
  cases room : context.enter with
  | error full => exact (inside_of_enter_eq_error room tree).symm
  | ok inner =>
      obtain ⟨rfl, reduced⟩ := inside_of_enter_eq_ok resolving room tree
      rw [reduced]
      apply smaller
      · rfl
      · exact (enter_eq_ok_iff.1 room).1.symm

/-- Fuel for the height of the tree, and once more for the highest bound node at each lookup or call
that is left, is enough. -/
theorem reduceFuelled_of_height_le (data : Json)
    (bound : ∀ tree, context.environment.scopes.Binds tree → tree.height ≤ highest)
    (enough : context.remaining * highest + data.height ≤ fuel) :
    reduceFuelled exhausted fuel context data = context.reduce data := by
  induction fuel generalizing context data with
  | zero =>
      have positive := data.height_pos
      omega
  | succ fuel ih =>
      rw [reduceFuelled, reduce_eq_rule]
      apply eq_of_refines
      apply Environment.rule_refines (Environment.refinedBy_refl _)
      · intro resolving tree partOrBound
        apply refines_of_eq
        apply inside_eq_of_fuelled resolving
        intro inner sameTables less
        have low : tree.height < data.height ∨ tree.height ≤ highest := by
          apply partOrBound.imp
          · intro part
            exact (Json.below_of_mem_parts part).height_lt
          · exact bound tree
        have positive := data.height_pos
        apply ih
        · rw [sameTables]
          exact bound
        · rw [← less, Nat.succ_mul] at enough
          omega
      · intro part member mode
        have lower := (Json.below_of_mem_parts member).height_lt
        apply refines_of_eq
        apply ih
        · exact bound
        · change context.remaining * highest + part.height ≤ fuel
          omega

end Context

/-- Fuel for the highest of the tree and the nodes in the scopes, at every depth up to the limit, is
enough: whatever running out of it would give, the outcome is that of the reduction. So reductions
end, and no more of them than that are ever inside each other. -/
theorem Reducer.reduceFuelled_eq_reduce (reducer : Reducer) (scopes : SymbolTable) (mode : Mode)
    (data : Json) {fuel : Nat}
    (enough : (reducer.maxDepth + 1) * Json.itemsHeight (data :: scopes.nodes) ≤ fuel)
    (exhausted : Except FoldError Value) :
    (reducer.context scopes mode).reduceFuelled exhausted fuel data =
      reducer.reduce scopes mode data := by
  apply Context.reduceFuelled_of_height_le
  · intro tree binds
    exact Json.height_le_of_mem (List.mem_cons_of_mem data binds.mem_nodes)
  · have low : data.height ≤ Json.itemsHeight (data :: scopes.nodes) :=
      Json.height_le_of_mem List.mem_cons_self
    rw [Nat.succ_mul] at enough
    exact Nat.le_trans (Nat.add_le_add_left low _) enough

end Reductions

section Looping

attribute [local instance] Host.closed

/-- A member that leads to itself. -/
theorem Reducer.reduceFuelled_eq_reduce_looping :
    let reducer : Reducer := ⟨.empty, .prelude, 2⟩
    let scopes := loopingContext.environment.scopes
    let access := Tree.access Tree.this "loop"
    (reducer.maxDepth + 1) * Json.itemsHeight (access :: scopes.nodes) ≤ 9 ∧
      (reducer.context scopes .resolve).reduceFuelled (.ok .null) 9 access =
        reducer.reduce scopes .resolve access ∧
          reducer.reduce scopes .resolve access = .error (.depthExceeded 2) := by
  intro reducer scopes access
  have enough : (reducer.maxDepth + 1) * Json.itemsHeight (access :: scopes.nodes) ≤ 9 := by
    decide
  constructor
  · exact enough
  · constructor
    · exact Reducer.reduceFuelled_eq_reduce reducer scopes .resolve access enough (.ok .null)
    · change (reducer.context scopes .resolve).reduce access = _
      rw [Context.reduce_eq_unrolled 3]
      rfl

end Looping

end SyntaxFold
