import SyntaxFold.Proofs.Function.Call
import SyntaxFold.Proofs.Outcome

/-!
# Calls end

Functions are values like others: a function can be called on itself, and `map` calls its argument
on what it has captured, which may be functions again. So function and argument change places from
one call to the next, and neither of them becomes smaller. The two together do: `map` of some items
on a function calls the function on the items, one by one, and each item is a part of what the call
started with. A call with as much fuel as the function and its arguments are large never runs out
of it.
-/

namespace SyntaxFold

open Outcome

/-! ## Size -/

mutual

/-- How many values a value consists of, with those that its functions have captured. -/
def Value.size : Value → Nat
  | .sequence items => Value.itemsSize items + 1
  | .mapping entries => Value.entriesSize entries + 1
  | .function _ body => body.size + 1
  | _ => 1

/-- How many values a function has captured. -/
def Callable.size : Callable → Nat
  | .mapItems items => Value.itemsSize items
  | .constant _ entries => Value.entriesSize entries
  | _ => 0

/-- How many values several values consist of. -/
def Value.itemsSize : List Value → Nat
  | [] => 0
  | item :: rest => item.size + Value.itemsSize rest

/-- How many values the values of several entries consist of. -/
def Value.entriesSize : List (String × Value) → Nat
  | [] => 0
  | (_, value) :: rest => value.size + Value.entriesSize rest

end

namespace Value

theorem size_pos (value : Value) : 0 < value.size := by
  cases value <;> simp [size]

theorem size_le_of_mem {item : Value} {items : List Value} (member : item ∈ items) :
    item.size ≤ itemsSize items := by
  induction member with
  | head rest => exact Nat.le_add_right _ _
  | tail _ _ ih => exact Nat.le_trans ih (Nat.le_add_left _ _)

@[simp] theorem itemsSize_singleton (item : Value) : itemsSize [item] = item.size := by
  simp [itemsSize]

/-- A call from within a call is on a function and an argument that are smaller together. -/
theorem size_call_lt {item : Value} {items : List Value} (member : item ∈ items) (stamp : Nat)
    (argument : Value) :
    argument.size + item.size < (function stamp (.mapItems items)).size + argument.size := by
  have smaller := size_le_of_mem member
  simp only [size, Callable.size]
  omega

end Value

/-! ## One call -/

section Calls

variable [Host]

namespace Callable

/-- The result of a call, when `apply` makes the calls from within it. -/
def rule (apply : Value → Value → Except FoldError Value) (function : Callable)
    (arguments : List Value) : Except FoldError Value :=
  match function, arguments with
  | .nameMap, [argument] => (NameMap.ofValue argument).mapError (.callFailed "toNameMap")
  | .standIn _, [argument] => .ok argument
  | .unaryMath math, [argument] => do
      let number ← numberArgument (mathName math.name) argument
      return .number (math.apply number)
  | .binaryMath math, [left, right] => do
      let left ← numberArgument (mathName math.name) left
      let right ← numberArgument (mathName math.name) right
      return .number (math.apply left right)
  | .extremum kind, arguments => kind.ofValues kind.start arguments
  | .logarithm base scale, [argument] => do
      let number ← numberArgument base.formulaName argument
      return .number (scale * base.log number)
  | .mapItems items, [callee] => (items.mapM (apply callee)).map .sequence
  | .constant _ entries, _ => .ok (.mapping entries)
  | .custom name arity behaviour, arguments =>
      if 0 ≤ arity ∧ arguments.length ≠ arity.toNat then
        .error (Callable.mismatch (.custom name arity behaviour) arguments)
      else behaviour.run name arguments
  | function, arguments => .error (function.mismatch arguments)

/-- A call makes the calls from within it in the same way. -/
theorem call_eq_rule (function : Callable) (arguments : List Value) :
    function.call arguments = function.rule (fun callee item => callee.call [item]) arguments := by
  unfold call rule
  split <;> first | rfl | simp only [Value.callEach_eq_mapM]

/-- Only `map` makes calls from within a call, those of its argument on the items. -/
theorem rule_congr {apply apply' : Value → Value → Except FoldError Value} {function : Callable}
    {arguments : List Value}
    (same : ∀ items callee, function = .mapItems items → arguments = [callee] →
      ∀ item ∈ items, apply callee item = apply' callee item) :
    function.rule apply arguments = function.rule apply' arguments := by
  unfold rule
  split
  case h_7 items callee =>
    have results : items.mapM (apply callee) = items.mapM (apply' callee) := by
      apply eq_of_refines
      apply refines_mapM
      intro item member
      exact refines_of_eq (same items callee rfl rfl item member)
    rw [results]
  all_goals rfl

end Callable

namespace Value

/-! ## Calls with fuel -/

/-- A call with fuel for a number of calls inside each other. Where one more is needed, it ends in
the given outcome instead. -/
def callFuelled (exhausted : Except FoldError Value) :
    (fuel : Nat) → Value → List Value → Except FoldError Value
  | 0, _, _ => exhausted
  | fuel + 1, callee, arguments =>
      match callee with
      | .function _ body =>
          body.rule (fun callee item => callFuelled exhausted fuel callee [item]) arguments
      | other => .error (.notCallable (.ofType other.type))

/-- Fuel for the size of the function and its arguments together is enough. -/
theorem callFuelled_of_size_le {exhausted : Except FoldError Value} {fuel : Nat} {callee : Value}
    {arguments : List Value} (enough : callee.size + itemsSize arguments ≤ fuel) :
    callFuelled exhausted fuel callee arguments = callee.call arguments := by
  induction fuel generalizing callee arguments with
  | zero =>
      have positive := callee.size_pos
      omega
  | succ fuel ih =>
      cases callee with
      | function stamp body =>
          rw [callFuelled, call, Callable.call_eq_rule]
          apply Callable.rule_congr
          intro items argument isMap single item member
          subst isMap single
          have smaller := size_call_lt member stamp argument
          apply ih
          rw [itemsSize_singleton] at enough ⊢
          omega
      | _ =>
          rw [callFuelled, call]
          all_goals
            intro stamp body impossible
            cases impossible

/-- Every call ends, of a function on itself, too: fuel for the size of the function and its
arguments together is enough, whatever running out of it would give. For `map` of some items calls
its argument on each item, and these are smaller together than what the call started with. -/
theorem call_ends :
    (∀ callee arguments fuel exhausted, callee.size + itemsSize arguments ≤ fuel →
      callFuelled exhausted fuel callee arguments = callee.call arguments) ∧
    ∀ stamp items argument,
      (function stamp (.mapItems items)).call [argument] =
          (items.mapM fun item => argument.call [item]).map .sequence ∧
        ∀ item ∈ items,
          argument.size + item.size < (function stamp (.mapItems items)).size + argument.size := by
  constructor
  · intro callee arguments fuel exhausted enough
    exact callFuelled_of_size_le enough
  · intro stamp items argument
    constructor
    · rw [call, Callable.call_eq_rule]
      rfl
    · intro item member
      exact size_call_lt member stamp argument

end Value

end Calls

section SelfApplied

attribute [local instance] Host.closed

/-- `map` of a list that holds `map` of a list that holds the given value. -/
def nestedMap (value : Value) : Value :=
  .function 0 (.mapItems [.function 0 (.mapItems [value])])

/-- A function that is called on itself, where all calls are again of functions on functions. -/
theorem Value.call_ends_selfApplied :
    let last : Value := .function 0 (.standIn "centerWave")
    let callee := nestedMap last
    let inner : Value := .function 0 (.mapItems [last])
    let result : Value := .sequence [.sequence [.sequence [.sequence [last]]]]
    (callee.size + itemsSize [callee] ≤ 6 ∧ inner ∈ [inner]) ∧
      callFuelled (.ok .null) 6 callee [callee] = callee.call [callee] ∧
        callee.call [callee] = .ok result ∧
          callee.size + inner.size < callee.size + callee.size := by
  intro last callee inner result
  have enough : callee.size + itemsSize [callee] ≤ 6 := by decide
  have ends := (Value.call_ends).1 callee [callee] 6 (.ok .null) enough
  have smaller := ((Value.call_ends).2 0 [inner] callee).2 inner List.mem_cons_self
  constructor
  · exact ⟨enough, List.mem_cons_self⟩
  · constructor
    · exact ends
    · constructor
      · rw [← ends]
        rfl
      · exact smaller

end SelfApplied

end SyntaxFold
