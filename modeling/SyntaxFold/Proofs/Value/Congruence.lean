import SyntaxFold.Proofs.Entries
import SyntaxFold.Proofs.Operator
import SyntaxFold.Proofs.Outcome
import SyntaxFold.Reduction.Member

/-!
# Relations on values that operations keep

Operations on values look at scalars and, of all else, at the type only. So a relation under which
scalars are the same and types agree is kept by keys, signs and operators. `Value.Congruent` adds
that the relation is built up along sequences and mappings.
-/

namespace SyntaxFold

open Outcome

namespace Value

/-- A relation under which scalars are the same, types agree, and collections of related values are
related. -/
structure Congruent (values : Value → Value → Prop) : Prop where
  scalar : ∀ value : Value, value.isScalar = true → values value value
  function : ∀ stamp body, values (.function stamp body) (.function stamp body)
  sequence : ∀ items items', List.Forall₂ values items items' →
    values (.sequence items) (.sequence items')
  mapping : ∀ entries entries', Entries.Matching values entries entries' →
    values (.mapping entries) (.mapping entries')
  type_eq : ∀ value other, values value other → value.type = other.type
  eq_of_isScalar : ∀ value other, values value other → value.isScalar = true → value = other

theorem congruent_eq : Congruent (· = ·) where
  scalar _ _ := rfl
  function _ _ := rfl
  sequence items items' same := by
    rw [List.forall₂_eq_eq_eq] at same
    rw [same]
  mapping entries entries' matching := by
    have same : List.Forall₂ (· = ·) entries entries' :=
      List.Forall₂.imp (fun _ _ same => Prod.ext same.1 same.2) matching
    rw [List.forall₂_eq_eq_eq] at same
    rw [same]
  type_eq _ _ same := congrArg type same
  eq_of_isScalar _ _ same _ := same

/-- Whether a value is a scalar depends on its type alone. -/
theorem isScalar_congr {value other : Value} (same : value.type = other.type) :
    value.isScalar = other.isScalar := by
  cases value <;> cases other <;> first | rfl | cases same

namespace Congruent

variable {values : Value → Value → Prop} (congruent : Congruent values) {value other : Value}
include congruent

theorem computed {value : Value} (computed : Computed value) : values value value :=
  congruent.scalar value computed.isScalar

/-- Two related values are the same scalar, or neither is a scalar. -/
theorem eq_or_not_isScalar (related : values value other) :
    value = other ∨ value.isScalar = false ∧ other.isScalar = false := by
  have types : value.isScalar = other.isScalar := isScalar_congr (congruent.type_eq _ _ related)
  cases scalar : value.isScalar with
  | true => exact Or.inl (congruent.eq_of_isScalar _ _ related scalar)
  | false => exact Or.inr ⟨rfl, types ▸ scalar⟩

theorem float?_eq (related : values value other) : value.float? = other.float? := by
  rcases congruent.eq_or_not_isScalar related with rfl | ⟨no, no'⟩
  · rfl
  · have none {value : Value} (no : value.isScalar = false) : value.float? = none := by
      cases value <;> first | rfl | cases no
    rw [none no, none no']

variable {errors : FoldError → FoldError → Prop}

theorem agrees_keyOf {kind kind' : String} (related : values value other)
    (malformed : errors (.malformedNode kind "name") (.malformedNode kind' "name")) :
    Agrees (· = ·) errors (keyOf kind value) (keyOf kind' other) := by
  rcases congruent.eq_or_not_isScalar related with rfl | ⟨no, no'⟩
  · cases value <;> first | exact .ok rfl | exact .error malformed
  · have failed {kind : String} {value : Value} (no : value.isScalar = false) :
        keyOf kind value = .error (.malformedNode kind "name") := by
      cases value <;> first | rfl | cases no
    rw [failed no, failed no']
    exact .error malformed

theorem agrees_negate (related : values value other)
    (invalid : ∀ token type, errors (.invalidOperand token type) (.invalidOperand token type)) :
    Agrees values errors value.negate other.negate := by
  have failed {value : Value} {error : FoldError} (negated : value.negate = .error error) :
      error = .invalidOperand "MinusToken" value.type := by
    cases value with
    | integer number =>
        simp only [negate] at negated
        split at negated <;> cases negated
    | _ => cases negated <;> rfl
  rcases congruent.eq_or_not_isScalar related with rfl | ⟨no, no'⟩
  · refine agrees_self ?_ ?_
    · exact fun _ negated => congruent.computed (computed_of_negate negated).2
    · intro error negated
      rw [failed negated]
      exact invalid _ _
  · have types : value.type = other.type := congruent.type_eq _ _ related
    have refused {value : Value} (no : value.isScalar = false) :
        value.negate = .error (.invalidOperand "MinusToken" value.type) := by
      cases value <;> first | rfl | cases no
    rw [refused no, refused no', types]
    exact .error (invalid _ _)

theorem agrees_apply {operator : BinaryOperator} {left left' right right' : Value}
    (lefts : values left left') (rights : values right right')
    (invalid : ∀ symbol type type',
      errors (.invalidOperands symbol type type') (.invalidOperands symbol type type')) :
    Agrees values errors (operator.apply left right) (operator.apply left' right') := by
  have leftType : left.type = left'.type := congruent.type_eq _ _ lefts
  have rightType : right.type = right'.type := congruent.type_eq _ _ rights
  have sameInvalid : operator.invalid left right = operator.invalid left' right' := by
    rw [BinaryOperator.invalid, BinaryOperator.invalid, leftType, rightType]
  have failed : errors (operator.invalid left right) (operator.invalid left' right') :=
    sameInvalid ▸ invalid _ _ _
  -- An operator that succeeds on either side has scalars there, which are the same on both.
  cases applied : operator.apply left right with
  | ok result =>
      obtain ⟨leftScalar, rightScalar, computed⟩ := BinaryOperator.computed_of_apply applied
      obtain rfl := congruent.eq_of_isScalar _ _ lefts leftScalar
      obtain rfl := congruent.eq_of_isScalar _ _ rights rightScalar
      rw [applied]
      exact .ok (congruent.computed computed)
  | error error =>
      cases applied' : operator.apply left' right' with
      | ok result =>
          obtain ⟨leftScalar, rightScalar, -⟩ := BinaryOperator.computed_of_apply applied'
          rw [← isScalar_congr leftType] at leftScalar
          rw [← isScalar_congr rightType] at rightScalar
          obtain rfl := congruent.eq_of_isScalar _ _ lefts leftScalar
          obtain rfl := congruent.eq_of_isScalar _ _ rights rightScalar
          cases applied.symm.trans applied'
      | error error' =>
          rw [BinaryOperator.error_of_apply applied, BinaryOperator.error_of_apply applied']
          exact .error failed

end Congruent

end Value

end SyntaxFold
