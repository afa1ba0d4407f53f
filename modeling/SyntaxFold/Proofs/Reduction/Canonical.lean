import SyntaxFold.Proofs.Decimal.Dyadic
import SyntaxFold.Proofs.Reduction.Supply
import SyntaxFold.Proofs.Reduction.Unrolling

/-!
# Canonical numbers

A number that is an integer of 64 bits is never a float. All numbers of a reduction pass through
`Value.number`, which decides this, with one exception: the negative of the least integer is made a
float at once, and is too great to be an integer of 64 bits. So the values of reductions and of the
functions in them are canonical.
-/

namespace SyntaxFold

open Value

/-- A value that is no float in the place of an integer. A foreign function may return such floats,
so it is not counted among these values. -/
def Value.Narrowed : Value → Prop
  | .float number => ¬ FitsInt64 number
  | .function _ body => ¬ body.IsForeign
  | _ => True

/-- No float in a value, what its functions have captured included, stands for an integer of 64
bits. -/
def Value.Canonical (value : Value) : Prop := value.Everywhere Narrowed

/-- The negative of the least integer, as a double. -/
theorem not_fitsInt64_neg_minValue : ¬ FitsInt64 (-floatOfInt64 Int64.minValue) :=
  int64OfFloat?_eq_none_iff.1 (by decide +kernel)

theorem Value.invariant_narrowed : Invariant Narrowed where
  null := trivial
  bool _ := trivial
  integer _ := trivial
  string _ := trivial
  sequence _ := trivial
  mapping _ := trivial
  number value := by
    unfold Value.number
    split
    · trivial
    · next unread => exact int64OfFloat?_eq_none_iff.1 unread
  overflow value overflows := by
    rw [Numeral.eq_minValue_of_overflow overflows]
    exact not_fitsInt64_neg_minValue
  function _ _ known := known
  foreign _ _ isForeign := fun known => known isForeign

/-- A function in a canonical value returns a canonical value for canonical arguments. -/
theorem Value.Canonical.call [Host] {callee : Value} (canonical : callee.Canonical)
    {arguments : List Value} (every : ∀ argument ∈ arguments, argument.Canonical) {result : Value}
    (called : callee.call arguments = .ok result) : result.Canonical := by
  unfold Value.call at called
  split at called
  · next stamp body =>
      exact Callable.everywhere_call invariant_narrowed body arguments canonical.here
        (fun _ => canonical.inside) every result called
  · cases called

/-- In tables that supply canonical values, as the prelude (`everywhere_prelude`) and `Math`
(`everywhere_math`) do, every value of a reduction is canonical, and every function in it returns
canonical values for canonical arguments. -/
theorem Context.canonical_of_reduce [Host] (context : Context)
    (supplies : context.environment.Supplies Narrowed) (data : Json) (value : Value)
    (reduced : context.reduce data = .ok value) :
    (∀ number, value.Contains (.float number) → ¬ FitsInt64 number) ∧ value.Canonical ∧
      ∀ callee, value.Contains callee → ∀ arguments : List Value,
        (∀ argument ∈ arguments, argument.Canonical) →
          ∀ result, callee.call arguments = .ok result → result.Canonical := by
  have admits : context.mode.Admits Narrowed := Or.inr fun _ => trivial
  have canonical : value.Canonical :=
    context.reduce_everywhere invariant_narrowed supplies admits data value reduced
  refine ⟨?_, canonical, ?_⟩
  · intro number contains
    exact (canonical.of_contains contains).here
  · intro callee contains arguments every result called
    exact Canonical.call (canonical.of_contains contains) every called

section Overflow

attribute [local instance] Host.closed

/-- The negative of the negative of the least integer is a float, a quotient may be an integer, and
so is the sign of that float. -/
theorem Context.canonical_of_reduce_overflow :
    let context : Context := ⟨⟨.empty, .prelude, listScopes⟩, .resolve, 256, 0⟩
    let minus := Tree.unary (.string "MinusToken")
    let quotient := Tree.binary (Tree.numeral "6") "SlashToken" (Tree.numeral "3")
    let tree := Tree.array [minus (minus (Tree.numeral "9223372036854775808")), quotient,
      Tree.access (Tree.identifier "Math") "sign"]
    let overflow := Float.ofBits 0x43E0000000000000
    let sign : Value := .function 0 (.unaryMath .sign)
    let value : Value := .sequence [.float overflow, .integer 2, sign]
    (context.environment.Supplies Narrowed ∧ context.reduce tree = .ok value) ∧
      ¬ FitsInt64 overflow ∧ sign.call [.float overflow] = .ok (.integer 1) ∧
      (Value.integer 1).Canonical := by
  have called : (Value.function 0 (.unaryMath .sign)).call
      [.float (Float.ofBits 0x43E0000000000000)] = .ok (.integer 1) := by
    rw [Value.call, Callable.call]
    rfl
  intro context minus quotient tree overflow sign value
  have supplies : context.environment.Supplies Narrowed := everywhere_listScopes invariant_narrowed
  have reduced : context.reduce tree = .ok value := by
    rw [Context.reduce_eq_unrolled 4]
    rfl
  have overflowMember : .float overflow ∈ value.inner := by simp [value, Value.inner]
  have signMember : sign ∈ value.inner := by simp [value, Value.inner]
  obtain ⟨outside, canonical, closed⟩ :=
    Context.canonical_of_reduce context supplies tree value reduced
  refine ⟨⟨supplies, reduced⟩, outside _ (.inside overflowMember (.self _)), called, ?_⟩
  refine closed sign (.inside signMember (.self _)) _ ?_ _ called
  intro argument member
  obtain rfl := List.mem_singleton.1 member
  exact canonical.inside overflowMember

end Overflow

end SyntaxFold
