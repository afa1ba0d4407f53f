import SyntaxFold.Proofs.Reduction.LiteralMode

/-!
# Shifting depth and limit together

How a reduction ends depends on how many lookups and calls are left, not on the limit and on how
many are in progress already. Two reductions of one tree with as many left differ at most in the
limit that they report.
-/

namespace SyntaxFold

open Outcome

/-- The same error, or that of reaching a limit on either side. -/
def FoldError.SameUpToLimit (limit limit' : Nat) (error error' : FoldError) : Prop :=
  error = error' ∨ error = .depthExceeded limit ∧ error' = .depthExceeded limit'

section Reductions

variable [Host]

/-- Every environment is like itself. -/
theorem Environment.alike_self (environment : Environment) {errors : FoldError → FoldError → Prop}
    (error_self : ∀ error, errors error error) :
    Alike (Variation.ofParts (· = ·)) errors environment environment where
  lawful := Variation.lawful_ofParts _ _ fun error _ => error_self error
  error_self := error_self
  kinds := rfl
  registry := rfl
  scopes := SymbolTable.matches_self (fun _ => rfl) _
  tree tree tree' same := by
    cases same
    apply Or.inl
    apply Json.alike_self
    · exact Variation.reflexive_ofParts fun _ => rfl
    · exact fun error _ => error_self error
  factor inside inside' factor factor' same := by
    cases same
    exact agrees_factor rfl error_self factor

/-- With as many lookups and calls left, reductions agree up to the limit. -/
theorem Environment.reduceWithin_of_remaining (environment : Environment)
    (limit limit' remaining : Nat) (tree : Json) :
    Agrees (· = ·) (FoldError.SameUpToLimit limit limit')
      (environment.reduceWithin limit remaining tree)
      (environment.reduceWithin limit' remaining tree) := by
  have alike : Alike (Variation.ofParts (· = ·)) (FoldError.SameUpToLimit limit limit')
      environment environment :=
    environment.alike_self fun _ => .inl rfl
  apply alike.reduceWithin_of_limits
  · exact .inr ⟨rfl, rfl⟩
  · rfl

end Reductions

end SyntaxFold
