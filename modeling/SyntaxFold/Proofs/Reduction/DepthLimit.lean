import SyntaxFold.Proofs.Node.Builder
import SyntaxFold.Proofs.Reduction.Refinement
import SyntaxFold.Proofs.Reduction.Unrolling

/-!
# The limit on lookups and calls

The limit only cuts reductions off. A reduction that ends without reaching its limit, in a value or
in an error of another kind, ends in the same way under every higher limit, whatever the scopes are.
-/

namespace SyntaxFold

/-- The error of reaching a limit. -/
def FoldError.IsCutOff : FoldError → Prop
  | .depthExceeded _ => True
  | _ => False

/-- A reduction that ends in anything but the error of its limit ends in the same way under every
higher limit. -/
theorem Context.reduce_eq_of_maxDepth_le [Host] (context : Context) {limit : Nat}
    (le : context.maxDepth ≤ limit) (data : Json)
    (finished : ∀ reached, context.reduce data ≠ .error (.depthExceeded reached)) :
    ({ context with maxDepth := limit } : Context).reduce data = context.reduce data := by
  have deeper : context.remaining ≤ ({ context with maxDepth := limit } : Context).remaining :=
    Nat.sub_le_sub_right le context.depth
  have refines : Outcome.Refines FoldError.IsCutOff (context.reduce data)
      (({ context with maxDepth := limit } : Context).reduce data) :=
    Context.reduce_refines context { context with maxDepth := limit }
      (Environment.refinedBy_refl _) (fun _ => trivial) rfl deeper data
  apply refines
  cases outcome : context.reduce data with
  | ok value => trivial
  | error error =>
      intro cutOff
      cases error with
      | depthExceeded reached => exact finished reached outcome
      | _ => exact cutOff

/-- A context in whose scopes one member leads to the next and another one leads to itself. -/
def loopingContext : Context :=
  ⟨⟨.empty, .prelude, SymbolTable.empty.insertAs selfScope
    ⟨"Config", [("first", .node (Tree.access Tree.this "second")),
      ("second", .node (Tree.numeral "7")),
      ("loop", .node (Tree.access Tree.this "loop"))]⟩⟩, .resolve, 2, 0⟩

section Looping

attribute [local instance] Host.closed

theorem Context.reduce_eq_of_maxDepth_le_looping :
    (loopingContext.maxDepth ≤ 256 ∧
      loopingContext.reduce (Tree.access Tree.this "first") = .ok (.integer 7)) ∧
        ({ loopingContext with maxDepth := 256 } : Context).reduce (Tree.access Tree.this "first") =
          loopingContext.reduce (Tree.access Tree.this "first") := by
  have le : loopingContext.maxDepth ≤ 256 := by decide
  have finite : loopingContext.reduce (Tree.access Tree.this "first") = .ok (.integer 7) := by
    rw [Context.reduce_eq_unrolled 3]
    rfl
  refine ⟨⟨le, finite⟩, Context.reduce_eq_of_maxDepth_le loopingContext le _ ?_⟩
  intro reached
  simp [finite]

end Looping

end SyntaxFold
