import SyntaxFold.Node.Wrapper
import SyntaxFold.Proofs.Reduction.Chain

/-!
# Calls by name

A call whose callee is an identifier calls the function of this name in the registry. If such a call
has a value, then its arguments have values, inside the call, and the function gives the value of
the call for them. Parentheses and type assertions around a call, or around anything else, make no
difference.
-/

namespace SyntaxFold

open Outcome

namespace Environment

variable [Host] {environment : Environment} {inside : Json → Except FoldError Value}
variable {limit remaining : Nat}

/-- What is reduced in full is what is inside the wrappers. -/
theorem reduceWith_unwrap_of_full {mode : Mode} (full : mode.shallow = false) (tree : Json) :
    environment.reduceWith inside mode tree =
      environment.reduceWith inside mode (unwrap tree) := by
  fun_induction unwrap tree with
  | case1 tree expression shape _ ih =>
      rw [reduceWith_eq_nodeRule shape, nodeRule, Mode.nested_eq_self full]
      exact ih
  | case2 => rfl

theorem reduceWith_unwrap (tree : Json) :
    environment.reduceWith inside .resolve tree =
      environment.reduceWith inside .resolve (unwrap tree) :=
  reduceWith_unwrap_of_full rfl tree

/-- A value from inside a lookup or a call is one of the rules, with one lookup or call less to
come. -/
theorem exists_reduceWith_of_reduceWithin {tree : Json} {value : Value}
    (reduced : environment.reduceWithin limit remaining tree = .ok value) :
    ∃ less, environment.reduceWith (environment.reduceWithin limit less) .resolve tree =
      .ok value := by
  cases remaining with
  | zero => cases reduced
  | succ less => exact ⟨less, reduced⟩

section Calls

variable {tree callee : Json} {arguments : List Json} {name : String} {function : Callable}
variable {value : Value}

/-- The value of a call by name is what the function gives for the values of the arguments. -/
theorem values_of_call (shape : Node.ofJson tree = .ok (.call callee arguments))
    (named : Node.ofJson callee = .ok (.identifier name))
    (registered : environment.registry.get? name = some function)
    (reduced : environment.reduceWith (environment.reduceWithin limit remaining) .resolve tree =
      .ok value) :
    ∃ values, arguments.mapM (environment.reduceWithin limit remaining) = .ok values ∧
      function.call values = .ok value := by
  rw [reduceWith_eq_nodeRule shape] at reduced
  rcases bind_eq_ok_iff.1 reduced with ⟨target, targetOk, onward⟩
  rcases bind_eq_ok_iff.1 onward with ⟨values, valuesOk, called⟩
  rcases exists_reduceWith_of_reduceWithin targetOk with ⟨less, isName⟩
  rw [reduceWith_of_namesScope (.identifier named)] at isName
  cases isName
  simp only [functionOf, registered, ok_bind] at called
  exact ⟨values, valuesOk, called⟩

/-- A function that takes one argument only was called with one. -/
theorem argument_of_call (shape : Node.ofJson tree = .ok (.call callee arguments))
    (named : Node.ofJson callee = .ok (.identifier name))
    (registered : environment.registry.get? name = some function)
    (unary : ∀ values result, function.call values = .ok result → ∃ value, values = [value])
    (reduced : environment.reduceWith (environment.reduceWithin limit remaining) .resolve tree =
      .ok value) :
    ∃ argument result less, arguments = [argument] ∧
      environment.reduceWith (environment.reduceWithin limit less) .resolve argument =
        .ok result ∧ function.call [result] = .ok value := by
  rcases values_of_call shape named registered reduced with ⟨values, valuesOk, called⟩
  rcases unary values value called with ⟨result, rfl⟩
  cases mapM_eq_ok_iff.1 valuesOk with
  | @cons argument _ rest _ argumentOk none =>
      cases none
      rcases exists_reduceWith_of_reduceWithin argumentOk with ⟨less, resolved⟩
      exact ⟨argument, result, less, rfl, resolved, called⟩

end Calls

end Environment

end SyntaxFold
