import SyntaxFold.Function.Call

/-!
# The recursion of calls

Only `map` calls a function from within a call: it calls its argument on every item that it has
captured. Both are parts of what the call started with, so whatever follows for a call from the
calls that it makes holds of every call.
-/

namespace SyntaxFold

theorem Value.callEach_eq_mapM [Host] (callee : Value) (items : List Value) :
    callee.callEach items = items.mapM fun item => callee.call [item] := by
  induction items with
  | nil =>
      rw [callEach]
      rfl
  | cons item rest ih => rw [callEach, ih, List.mapM_cons]

/-- A call from within a call is on a smaller function and argument. -/
theorem Callable.sizeOf_call_lt {items : List Value} {item : Value} (member : item ∈ items)
    (stamp : Nat) (body : Callable) :
    sizeOf body + sizeOf [item] <
      sizeOf (mapItems items) + sizeOf [Value.function stamp body] := by
  have smaller := List.sizeOf_lt_of_mem member
  simp only [mapItems.sizeOf_spec, Value.function.sizeOf_spec, List.cons.sizeOf_spec,
    List.nil.sizeOf_spec]
  omega

/-- What holds of a call whenever it holds of the calls from within it holds of every call. -/
theorem Callable.call_induction {motive : Callable → List Value → Prop}
    (step : ∀ function arguments,
      (∀ items stamp body, function = .mapItems items → arguments = [.function stamp body] →
        ∀ item ∈ items, motive body [item]) → motive function arguments)
    (function : Callable) (arguments : List Value) : motive function arguments :=
  step function arguments fun _ _ body _ _ item _ => call_induction step body [item]
termination_by sizeOf function + sizeOf arguments
decreasing_by
  subst_vars
  exact sizeOf_call_lt ‹_› _ _

end SyntaxFold
