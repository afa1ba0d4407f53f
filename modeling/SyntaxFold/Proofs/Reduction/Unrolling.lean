import SyntaxFold.Proofs.Reduction.Rule

/-!
# Unrolled reductions

The equation of a reduction can be applied any number of times. What results is recursive in the
number of applications and no longer in the tree, so the reduction of a given tree can be computed
by definition, as long as the number is at least the height of every tree involved.
-/

namespace SyntaxFold

variable [Host]

namespace Environment

/-- Reduction with its equation applied a number of times. -/
def unrolled (environment : Environment) (inside : Json → Except FoldError Value) :
    (levels : Nat) → Mode → Json → Except FoldError Value
  | 0 => environment.reduceWith inside
  | levels + 1 => environment.rule inside (environment.unrolled inside levels)

theorem reduceWith_eq_unrolled (environment : Environment)
    (inside : Json → Except FoldError Value) (levels : Nat) :
    environment.reduceWith inside = environment.unrolled inside levels := by
  induction levels with
  | zero => rfl
  | succ levels ih =>
      funext mode data
      rw [reduceWith_eq_rule, unrolled, ih]

/-- Reduction inside lookups and calls with its equation applied a number of times each. -/
def unrolledWithin (environment : Environment) (levels limit : Nat) :
    (remaining : Nat) → Json → Except FoldError Value
  | 0, _ => .error (.depthExceeded limit)
  | remaining + 1, tree =>
      environment.unrolled (environment.unrolledWithin levels limit remaining) levels .resolve tree

theorem reduceWithin_eq_unrolledWithin (environment : Environment)
    (levels limit remaining : Nat) :
    environment.reduceWithin limit remaining =
      environment.unrolledWithin levels limit remaining := by
  induction remaining with
  | zero => rfl
  | succ remaining ih =>
      funext tree
      rw [reduceWithin, unrolledWithin, reduceWith_eq_unrolled environment _ levels, ih]

end Environment

theorem Context.reduce_eq_unrolled (levels : Nat) (context : Context) (data : Json) :
    context.reduce data =
      context.environment.unrolled
        (context.environment.unrolledWithin levels context.maxDepth context.remaining)
        levels context.mode data := by
  rw [reduce, inside, Environment.reduceWith_eq_unrolled _ _ levels,
    Environment.reduceWithin_eq_unrolledWithin _ levels]

end SyntaxFold
