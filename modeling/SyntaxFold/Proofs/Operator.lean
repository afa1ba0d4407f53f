import SyntaxFold.Operator
import SyntaxFold.Proofs.Numeral
import SyntaxFold.Reduction.Member
import SyntaxFold.Value.Data

/-!
# What operators accept and give

Whether an operator has a result depends on the types of its operands and, for a shift, on the sign
of the amount. `BinaryOperator.decided_apply` says when there is one and which error there is
otherwise. Operators accept scalars only, and what they give has one of few forms: an integer, a
text, a float that equals no integer, or the negative of the least integer. Numerals and bare
integers give such values as well.
-/

namespace SyntaxFold

/-! ## Types of operands -/

/-- The types of numbers. -/
inductive ValueType.IsNumber : ValueType → Prop
  | integer : IsNumber .integer
  | float : IsNumber .float

/-- The types of values that have a text of their own under concatenation. -/
inductive ValueType.IsScalar : ValueType → Prop
  | null : IsScalar .null
  | boolean : IsScalar .boolean
  | number {type : ValueType} : type.IsNumber → IsScalar type
  | string : IsScalar .string

namespace Value

theorem isNumber_iff {value : Value} :
    value.type.IsNumber ↔ ∃ number, value.float? = some number := by
  constructor
  · intro isNumber
    cases value with
    | integer number => exact ⟨_, rfl⟩
    | float number => exact ⟨_, rfl⟩
    | _ => cases isNumber
  · rintro ⟨number, found⟩
    cases value with
    | integer number => exact .integer
    | float number => exact .float
    | _ => cases found

theorem isScalar_iff {value : Value} : value.type.IsScalar ↔ value.isScalar = true := by
  constructor
  · intro isScalar
    cases value with
    | null | bool _ | integer _ | float _ | string _ => rfl
    | _ =>
        cases isScalar with
        | number isNumber => cases isNumber
  · intro scalar
    cases value with
    | null => exact .null
    | bool _ => exact .boolean
    | integer _ => exact .number .integer
    | float _ => exact .number .float
    | string _ => exact .string
    | _ => cases scalar

/-! ## Computed values -/

/-- A value of the forms that arithmetic and concatenation give. -/
inductive Computed : Value → Prop
  | integer (value : Int64) : Computed (.integer value)
  | string (text : String) : Computed (.string text)
  | number (value : Float) : Computed (.number value)
  | overflow (value : Int64) (overflows : Numeral.int64OfInt? (-value.toInt) = none) :
      Computed (.float (-floatOfInt64 value))

theorem isNumber_number (value : Float) : (number value).type.IsNumber := by
  unfold number
  split
  · exact .integer
  · exact .float

theorem isScalar_number (value : Float) : (number value).isScalar = true :=
  isScalar_iff.1 (.number (isNumber_number value))

theorem Computed.isScalar {value : Value} (computed : Computed value) :
    value.isScalar = true := by
  cases computed with
  | number value => exact isScalar_number value
  | _ => rfl

theorem computed_ofInteger (number : Int) : Computed (ofInteger number) := by
  unfold ofInteger
  split
  · exact .integer _
  · exact .number _

theorem computed_of_ofNumeral {text : String} {value : Value}
    (numeral : ofNumeral text = .ok value) : Computed value := by
  rcases ofNumeral_eq_ok_iff.1 numeral with ⟨whole, -, rfl⟩ | ⟨-, nearest, -, rfl⟩
  · exact .integer whole
  · exact .number nearest

/-- Only scalars have a negative. -/
theorem computed_of_negate {value result : Value} (negated : value.negate = .ok result) :
    value.isScalar = true ∧ Computed result := by
  cases value with
  | integer number =>
      simp only [negate] at negated
      split at negated
      · cases negated
        exact ⟨rfl, .integer _⟩
      · next overflows =>
          cases negated
          exact ⟨rfl, .overflow number overflows⟩
  | float number =>
      cases negated
      exact ⟨rfl, .number _⟩
  | _ => cases negated

end Value

namespace BinaryOperator

open Value

/-! ## Outcomes that a condition decides -/

/-- An outcome is a value with the given property if the condition holds, and the given error if it
does not. -/
structure Decided (condition : Prop) (property : Value → Prop) (error : FoldError)
    (outcome : Except FoldError Value) : Prop where
  accepts : condition → ∃ result, outcome = .ok result ∧ property result
  refuses : ¬ condition → outcome = .error error

namespace Decided

variable {condition : Prop} {property : Value → Prop} {error : FoldError}
variable {outcome : Except FoldError Value}

theorem of_ok (decided : Decided condition property error outcome) {result : Value}
    (succeeds : outcome = .ok result) : condition ∧ property result := by
  by_cases holds : condition
  · obtain ⟨other, isOther, has⟩ := decided.accepts holds
    cases succeeds.symm.trans isOther
    exact ⟨holds, has⟩
  · cases succeeds.symm.trans (decided.refuses holds)

theorem of_error (decided : Decided condition property error outcome) {found : FoldError}
    (failed : outcome = .error found) : found = error := by
  by_cases holds : condition
  · obtain ⟨result, isResult, -⟩ := decided.accepts holds
    cases failed.symm.trans isResult
  · cases failed.symm.trans (decided.refuses holds)
    rfl

theorem exists_ok_iff (decided : Decided condition property error outcome) :
    (∃ result, outcome = .ok result) ↔ condition := by
  constructor
  · rintro ⟨result, succeeds⟩
    exact (decided.of_ok succeeds).1
  · intro holds
    obtain ⟨result, isResult, -⟩ := decided.accepts holds
    exact ⟨result, isResult⟩

end Decided

/-! ## What each operator accepts -/

/-- What arithmetic gives: a number that is computed. -/
def Numeric (result : Value) : Prop := result.type.IsNumber ∧ Computed result

theorem numeric_number (value : Float) : Numeric (.number value) :=
  ⟨isNumber_number value, .number value⟩

theorem numeric_integer (value : Int64) : Numeric (.integer value) :=
  ⟨.integer, .integer value⟩

/-- The operands are numbers. -/
def AreNumbers (left right : Value) : Prop := left.type.IsNumber ∧ right.type.IsNumber

theorem areNumbers_of_float? {left right : Value} {a b : Float} (leftNumber : left.float? = some a)
    (rightNumber : right.float? = some b) : AreNumbers left right :=
  ⟨isNumber_iff.2 ⟨a, leftNumber⟩, isNumber_iff.2 ⟨b, rightNumber⟩⟩

/-- Only numbers have a pair of doubles. -/
theorem not_areNumbers_of_float? {left right : Value}
    (missing : ∀ a b, left.float? = some a → right.float? = some b → False) :
    ¬ AreNumbers left right := by
  rintro ⟨leftNumber, rightNumber⟩
  obtain ⟨a, isLeft⟩ := isNumber_iff.1 leftNumber
  obtain ⟨b, isRight⟩ := isNumber_iff.1 rightNumber
  exact missing a b isLeft isRight

/-- Arithmetic accepts numbers and gives a number. -/
theorem decided_arithmetic (operator : BinaryOperator) (exactly : Int → Int → Int)
    (rounded : Float → Float → Float) (left right : Value) :
    Decided (AreNumbers left right) Numeric (operator.invalid left right)
      (operator.arithmetic exactly rounded left right) := by
  unfold arithmetic
  split
  · next a b =>
      constructor
      · intro _
        split
        · exact ⟨_, rfl, numeric_integer _⟩
        · exact ⟨_, rfl, numeric_number _⟩
      · intro refused
        exact absurd ⟨.integer, .integer⟩ refused
  · split
    · next leftNumber rightNumber =>
        constructor
        · intro _
          exact ⟨_, rfl, numeric_number _⟩
        · intro refused
          exact absurd (areNumbers_of_float? leftNumber rightNumber) refused
    · next missing =>
        constructor
        · intro numbers
          exact absurd numbers (not_areNumbers_of_float? missing)
        · intro _
          rfl

/-- Division accepts numbers and gives a number. -/
theorem decided_quotient (left right : Value) :
    Decided (AreNumbers left right) Numeric (divide.invalid left right)
      (quotient left right) := by
  unfold quotient
  split
  · next leftNumber rightNumber =>
      constructor
      · intro _
        exact ⟨_, rfl, numeric_number _⟩
      · intro refused
        exact absurd (areNumbers_of_float? leftNumber rightNumber) refused
  · next missing =>
      constructor
      · intro numbers
        exact absurd numbers (not_areNumbers_of_float? missing)
      · intro _
        rfl

/-- A shift accepts integers, the second of which is not negative, and gives an integer. -/
theorem decided_shifted (left right : Value) :
    Decided (∃ number amount : Int64, left = .integer number ∧ right = .integer amount ∧
        0 ≤ amount.toInt) Numeric (shiftRight.invalid left right) (shifted left right) := by
  unfold shifted
  split
  · next number amount =>
      split
      · next nonnegative =>
          constructor
          · intro _
            exact ⟨_, rfl, numeric_integer _⟩
          · intro refused
            exact absurd ⟨number, amount, rfl, rfl, nonnegative⟩ refused
      · next negative =>
          constructor
          · rintro ⟨_, _, same, same', nonnegative⟩
            cases same
            cases same'
            exact absurd nonnegative negative
          · intro _
            rfl
  · next other =>
      constructor
      · rintro ⟨number, amount, rfl, rfl, -⟩
        exact absurd rfl (other number amount rfl)
      · intro _
        rfl

/-- One of the operands is a string, so that their sum joins texts. -/
def Joins (left right : Value) : Prop := left.type = .string ∨ right.type = .string

theorem joins_iff {left right : Value} :
    Joins left right ↔ (isString left || isString right) = true := by
  have string (value : Value) : value.type = .string ↔ isString value = true := by
    cases value <;> simp [Value.type, isString]
  rw [Joins, string, string, Bool.or_eq_true]

/-- The operands that an operator accepts. -/
inductive Accepts : BinaryOperator → Value → Value → Prop
  | numbers {operator : BinaryOperator} {left right : Value} :
      operator ≠ shiftRight → AreNumbers left right → Accepts operator left right
  | texts {left right : Value} :
      Joins left right → left.type.IsScalar → right.type.IsScalar → Accepts add left right
  | shift {number amount : Int64} :
      0 ≤ amount.toInt → Accepts shiftRight (.integer number) (.integer amount)

/-- What an operator gives for operands that it accepts. -/
inductive Gives : BinaryOperator → Value → Value → Value → Prop
  | text {left right : Value} :
      Joins left right → Gives add left right (.string (left.display ++ right.display))
  | number {operator : BinaryOperator} {left right result : Value} :
      ¬ (operator = add ∧ Joins left right) → Numeric result → Gives operator left right result

/-- An operator other than the shift that does not join texts accepts numbers. -/
theorem accepts_iff_areNumbers {operator : BinaryOperator} {left right : Value}
    (noShift : operator ≠ shiftRight) (apart : ¬ (operator = add ∧ Joins left right)) :
    operator.Accepts left right ↔ AreNumbers left right := by
  constructor
  · intro accepts
    cases accepts with
    | numbers _ numbers => exact numbers
    | texts joins => exact absurd ⟨rfl, joins⟩ apart
    | shift => exact absurd rfl noShift
  · intro numbers
    exact .numbers noShift numbers

theorem accepts_shiftRight_iff {left right : Value} :
    shiftRight.Accepts left right ↔ ∃ number amount : Int64,
      left = .integer number ∧ right = .integer amount ∧ 0 ≤ amount.toInt := by
  constructor
  · intro accepts
    cases accepts with
    | numbers noShift => exact absurd rfl noShift
    | @shift number amount nonnegative => exact ⟨number, amount, rfl, rfl, nonnegative⟩
  · rintro ⟨number, amount, rfl, rfl, nonnegative⟩
    exact .shift nonnegative

/-- With a string on one side, a sum accepts exactly the scalars: a string is no number. -/
theorem accepts_add_iff {left right : Value} (joins : Joins left right) :
    add.Accepts left right ↔ left.type.IsScalar ∧ right.type.IsScalar := by
  constructor
  · intro accepts
    cases accepts with
    | numbers _ numbers => exact ⟨.number numbers.1, .number numbers.2⟩
    | texts _ leftScalar rightScalar => exact ⟨leftScalar, rightScalar⟩
  · rintro ⟨leftScalar, rightScalar⟩
    exact .texts joins leftScalar rightScalar

/-- Where no texts are joined, an operator that computes with numbers gives one. -/
theorem Decided.gives {operator : BinaryOperator} {left right : Value} {condition : Prop}
    {outcome : Except FoldError Value}
    (decided : Decided condition Numeric (operator.invalid left right) outcome)
    (accepted : operator.Accepts left right ↔ condition)
    (apart : ¬ (operator = add ∧ Joins left right)) :
    Decided (operator.Accepts left right) (operator.Gives left right)
      (operator.invalid left right) outcome := by
  constructor
  · intro accepts
    obtain ⟨result, isResult, numeric⟩ := decided.accepts (accepted.1 accepts)
    exact ⟨result, isResult, .number apart numeric⟩
  · intro refused
    exact decided.refuses (mt accepted.2 refused)

/-- A sum joins texts if one operand is a string, and is arithmetic if none is. -/
theorem decided_plus (left right : Value) :
    Decided (add.Accepts left right) (add.Gives left right) (add.invalid left right)
      (plus left right) := by
  by_cases joins : Joins left right
  · rw [plus, if_pos (joins_iff.1 joins), accepts_add_iff joins, isScalar_iff, isScalar_iff,
      ← Bool.and_eq_true]
    constructor
    · intro scalars
      exact ⟨_, if_pos scalars, .text joins⟩
    · intro refused
      exact if_neg refused
  · have apart : ¬ (add = add ∧ Joins left right) := fun both => joins both.2
    rw [plus, if_neg (mt joins_iff.2 joins)]
    exact (decided_arithmetic ..).gives (accepts_iff_areNumbers (by decide) apart) apart

/-- An operator has a result exactly for the operands that it accepts. -/
theorem decided_apply (operator : BinaryOperator) (left right : Value) :
    Decided (operator.Accepts left right) (operator.Gives left right)
      (operator.invalid left right) (operator.apply left right) := by
  cases operator with
  | add => exact decided_plus left right
  | subtract | multiply =>
      exact (decided_arithmetic ..).gives (accepts_iff_areNumbers (by simp) (by simp)) (by simp)
  | divide =>
      have accepted := @accepts_iff_areNumbers divide left right (by simp) (by simp)
      exact (decided_quotient left right).gives accepted (by simp)
  | shiftRight =>
      exact (decided_shifted left right).gives accepts_shiftRight_iff (by simp)

theorem Accepts.isScalar {operator : BinaryOperator} {left right : Value}
    (accepts : operator.Accepts left right) :
    left.isScalar = true ∧ right.isScalar = true := by
  cases accepts with
  | numbers _ numbers =>
      exact ⟨isScalar_iff.1 (.number numbers.1), isScalar_iff.1 (.number numbers.2)⟩
  | texts _ leftScalar rightScalar =>
      exact ⟨isScalar_iff.1 leftScalar, isScalar_iff.1 rightScalar⟩
  | shift _ => exact ⟨rfl, rfl⟩

/-- An operator accepts only scalars, and what it gives is computed. -/
theorem computed_of_apply {operator : BinaryOperator} {left right result : Value}
    (applied : operator.apply left right = .ok result) :
    left.isScalar = true ∧ right.isScalar = true ∧ Computed result := by
  obtain ⟨accepts, gives⟩ := (decided_apply operator left right).of_ok applied
  refine ⟨accepts.isScalar.1, accepts.isScalar.2, ?_⟩
  cases gives with
  | text _ => exact .string _
  | number _ numeric => exact numeric.2

/-- An operator that fails says nothing but the types of its operands. -/
theorem error_of_apply {operator : BinaryOperator} {left right : Value} {error : FoldError}
    (failed : operator.apply left right = .error error) : error = operator.invalid left right :=
  (decided_apply operator left right).of_error failed

/-- An operator has a result exactly for the operands that it accepts: any but the shift for two
numbers, the sum for two scalars one of which is a string, and the shift for two integers the second
of which is not negative. With a string the sum joins the texts of both operands in order; every
other result is a number. Every failure names the operator and the types of both operands in
order. -/
theorem apply_domain (operator : BinaryOperator) (left right : Value) :
    ((∃ result, operator.apply left right = .ok result) ↔ operator.Accepts left right) ∧
    (∀ result, operator.apply left right = .ok result →
      (operator = add ∧ Joins left right → result = .string (left.display ++ right.display)) ∧
      (¬ (operator = add ∧ Joins left right) → result.type.IsNumber)) ∧
    ∀ error, operator.apply left right = .error error →
      error = .invalidOperands operator.symbol left.type right.type := by
  have decided := decided_apply operator left right
  refine ⟨decided.exists_ok_iff, ?_, ?_⟩
  · intro result applied
    obtain ⟨-, gives⟩ := decided.of_ok applied
    cases gives with
    | text joins =>
        constructor
        · intro _
          rfl
        · intro apart
          exact absurd ⟨rfl, joins⟩ apart
    | number apart numeric =>
        constructor
        · intro joins
          exact absurd joins apart
        · intro _
          exact numeric.1
  · intro error failed
    exact decided.of_error failed

/-- A truth value joins a text, a null is no operand of a difference, and no integer is shifted by
a negative amount. -/
theorem apply_domain_text :
    (add.apply (.bool true) (.string "!") = .ok (.string "true!") ∧
      add = add ∧ Joins (.bool true) (.string "!") ∧
      ¬ (add = add ∧ Joins (.integer 1) (.integer 2)) ∧
      add.apply (.integer 1) (.integer 2) = .ok (.integer 3) ∧
      subtract.apply .null (.float 1) = .error (subtract.invalid .null (.float 1))) ∧
    Value.string "true!" = .string ((Value.bool true).display ++ (Value.string "!").display) ∧
    (Value.integer 3).type.IsNumber ∧
    subtract.invalid .null (.float 1) = .invalidOperands "-" .null .float ∧
    ¬ ∃ result, shiftRight.apply (.integer 8) (.integer (-1)) = .ok result := by
  have joins : Joins (.bool true) (.string "!") := .inr rfl
  have apart : ¬ (add = add ∧ Joins (.integer 1) (.integer 2)) := by simp [Joins, Value.type]
  have joined : add.apply (.bool true) (.string "!") = .ok (.string "true!") := rfl
  have summed : add.apply (.integer 1) (.integer 2) = .ok (.integer 3) := rfl
  have failed : subtract.apply .null (.float 1) = .error (subtract.invalid .null (.float 1)) := rfl
  have negative : ¬ shiftRight.Accepts (.integer 8) (.integer (-1)) := by
    rw [accepts_shiftRight_iff]
    rintro ⟨_, _, -, same, nonnegative⟩
    cases same
    exact absurd nonnegative (by decide)
  refine ⟨⟨joined, rfl, joins, apart, summed, failed⟩, ?_, ?_, ?_, ?_⟩
  · exact ((apply_domain add (.bool true) (.string "!")).2.1 _ joined).1 ⟨rfl, joins⟩
  · exact ((apply_domain add (.integer 1) (.integer 2)).2.1 _ summed).2 apart
  · exact (apply_domain subtract .null (.float 1)).2.2 _ failed
  · exact mt (apply_domain shiftRight (.integer 8) (.integer (-1))).1.1 negative

end BinaryOperator

end SyntaxFold
