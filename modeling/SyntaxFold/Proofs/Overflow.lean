import SyntaxFold.Operator
import SyntaxFold.Proofs.Decimal.Whole

/-!
# Overflowing integers

Sums, differences and products of integers that do not fit 64 bits are computed on doubles. The
double is an integer as well: the exact result of the rounded operands, rounded again. This module
says when it fits 64 bits again although the exact result does not, so that a wrong integer comes
out. A sum or a difference has to lie just below the least integer for that, and is rounded to it. A
product may lie at either end.
-/

namespace SyntaxFold

open Rounding

/-! ## Sums beyond 64 bits -/

namespace Rounding

/-- Rounding does not bring a sum below the power of two that it reaches. -/
theorem le_nearestInt_add {left right : Int} (leftFits : left ≤ 2 ^ 63) (rightFits : right ≤ 2 ^ 63)
    (reaches : 2 ^ 63 ≤ left + right) :
    2 ^ 63 ≤ nearestInt (nearestInt left + nearestInt right) := by
  obtain ⟨a, rfl⟩ := Int.eq_ofNat_of_zero_le (a := left) (by omega)
  obtain ⟨b, rfl⟩ := Int.eq_ofNat_of_zero_le (a := right) (by omega)
  have reached : 2 ^ 63 ≤ nearest (nearest a + nearest b) := by
    rcases Nat.le_total b a with ordered | ordered
    · exact two_pow_le_nearest_add ordered (by omega)
    · rw [Nat.add_comm]
      exact two_pow_le_nearest_add ordered (by omega)
  rw [nearestInt_natCast, nearestInt_natCast, ← Int.natCast_add, nearestInt_natCast]
  omega

theorem nearestInt_add_le {left right : Int} (leftFits : -2 ^ 63 ≤ left)
    (rightFits : -2 ^ 63 ≤ right) (reaches : left + right ≤ -2 ^ 63) :
    nearestInt (nearestInt left + nearestInt right) ≤ -2 ^ 63 := by
  have mirrored : 2 ^ 63 ≤ nearestInt (nearestInt (-left) + nearestInt (-right)) :=
    le_nearestInt_add (by omega) (by omega) (by omega)
  rw [nearestInt_neg, nearestInt_neg, ← Int.neg_add, nearestInt_neg] at mirrored
  omega

end Rounding

/-! ## Operators on integers -/

namespace BinaryOperator

/-- The operators that integers are closed under, with the function on integers that each stands
for. -/
inductive Closed : BinaryOperator → (Int → Int → Int) → Prop
  | add : Closed add (· + ·)
  | subtract : Closed subtract (· - ·)
  | multiply : Closed multiply (· * ·)

/-- What an operator gives on doubles: the operands are rounded, and so is the result. -/
def rounded (exactly : Int → Int → Int) (left right : Int) : Int :=
  nearestInt (exactly (nearestInt left) (nearestInt right))

variable {operator : BinaryOperator} {exactly : Int → Int → Int}

/-- Arithmetic on integers takes place on doubles where the exact result does not fit 64 bits. -/
theorem arithmetic_integer (onDoubles : Float → Float → Float) (left right : Int64) :
    operator.arithmetic exactly onDoubles (.integer left) (.integer right) =
      .ok (((Numeral.int64OfInt? (exactly left.toInt right.toInt)).map .integer).getD
        (.number (onDoubles (floatOfInt64 left) (floatOfInt64 right)))) := by
  simp only [arithmetic]
  cases Numeral.int64OfInt? (exactly left.toInt right.toInt) <;> rfl

namespace Closed

/-- On integers an operator is exact where the result fits 64 bits, and rounded elsewhere. -/
theorem exists_apply_eq (closed : Closed operator exactly) (left right : Int64) :
    ∃ number, IsWhole number (rounded exactly left.toInt right.toInt) ∧
      operator.apply (.integer left) (.integer right) =
        .ok (((Numeral.int64OfInt? (exactly left.toInt right.toInt)).map .integer).getD
          (.number number)) := by
  have bounded (number : Int64) : number.toInt.natAbs ≤ 2 ^ 63 := by
    have inRange := isInt64_toInt number
    rw [IsInt64] at inRange
    omega
  have leftWhole : IsWhole (floatOfInt64 left) (nearestInt left.toInt) :=
    IsWhole.ofInt (le_trans (bounded left) (by decide))
  have rightWhole : IsWhole (floatOfInt64 right) (nearestInt right.toInt) :=
    IsWhole.ofInt (le_trans (bounded right) (by decide))
  have leftBounded : (nearestInt left.toInt).natAbs ≤ 2 ^ 64 :=
    le_trans (natAbs_nearestInt_le _) (Nat.mul_le_mul_left 2 (bounded left))
  have rightBounded : (nearestInt right.toInt).natAbs ≤ 2 ^ 64 :=
    le_trans (natAbs_nearestInt_le _) (Nat.mul_le_mul_left 2 (bounded right))
  cases closed with
  | add =>
      have applied := @arithmetic_integer .add (· + ·) (· + ·) left right
      exact ⟨_, leftWhole.add rightWhole (by omega), applied⟩
  | subtract =>
      have applied := @arithmetic_integer .subtract (· - ·) (· - ·) left right
      exact ⟨_, leftWhole.sub rightWhole (by omega), applied⟩
  | multiply =>
      have applied := @arithmetic_integer .multiply (· * ·) (· * ·) left right
      refine ⟨_, leftWhole.mul rightWhole ?_, applied⟩
      rw [Int.natAbs_mul]
      exact le_trans (Nat.mul_le_mul leftBounded rightBounded) (by decide)

/-- Where a sum or a difference does not fit 64 bits, the rounded one does not either, unless it is
the least integer. -/
theorem rounded_of_not_isInt64 (closed : Closed operator exactly)
    (notProduct : operator ≠ .multiply) {left right : Int64}
    (overflows : ¬ IsInt64 (exactly left.toInt right.toInt))
    (fits : IsInt64 (rounded exactly left.toInt right.toInt)) :
    rounded exactly left.toInt right.toInt = -2 ^ 63 ∧
      exactly left.toInt right.toInt < -2 ^ 63 := by
  have sum {left right : Int} (leftBounds : -2 ^ 63 ≤ left ∧ left ≤ 2 ^ 63)
      (rightBounds : -2 ^ 63 ≤ right ∧ right ≤ 2 ^ 63) (overflows : ¬ IsInt64 (left + right))
      (fits : IsInt64 (nearestInt (nearestInt left + nearestInt right))) :
      nearestInt (nearestInt left + nearestInt right) = -2 ^ 63 ∧ left + right < -2 ^ 63 := by
    rw [IsInt64] at overflows fits
    rcases Int.lt_or_le (left + right) (-2 ^ 63) with below | inside
    · have least := nearestInt_add_le leftBounds.1 rightBounds.1 below.le
      omega
    · have greatest := le_nearestInt_add leftBounds.2 rightBounds.2 (by omega)
      omega
  have leftRange := isInt64_toInt left
  have rightRange := isInt64_toInt right
  rw [IsInt64] at leftRange rightRange
  cases closed with
  | add => exact sum (by omega) (by omega) overflows fits
  | subtract =>
      simp only [rounded, Int.sub_eq_add_neg, ← nearestInt_neg] at overflows fits ⊢
      exact sum (by omega) (by omega) overflows fits
  | multiply => exact absurd rfl notProduct

/-- A result that fits 64 bits is exact. -/
theorem apply_of_isInt64 (closed : Closed operator exactly) {left right : Int64}
    (fits : IsInt64 (exactly left.toInt right.toInt)) :
    ∃ whole, operator.apply (.integer left) (.integer right) = .ok (.integer whole) ∧
      whole.toInt = exactly left.toInt right.toInt := by
  obtain ⟨number, -, applied⟩ := closed.exists_apply_eq left right
  have found : Numeral.int64OfInt? (exactly left.toInt right.toInt) =
      some (Int64.ofInt (exactly left.toInt right.toInt)) := if_pos fits
  rw [found] at applied
  exact ⟨_, applied, (Numeral.int64OfInt?_eq_some_iff.1 found).symm⟩

/-- A result that does not fit 64 bits is rounded: it is an integer if the rounded one fits, and a
float if not. -/
theorem apply_of_not_isInt64 (closed : Closed operator exactly) {left right : Int64}
    (overflows : ¬ IsInt64 (exactly left.toInt right.toInt)) :
    (IsInt64 (rounded exactly left.toInt right.toInt) ∧
      ∃ whole, operator.apply (.integer left) (.integer right) = .ok (.integer whole) ∧
        whole.toInt = rounded exactly left.toInt right.toInt) ∨
    (¬ IsInt64 (rounded exactly left.toInt right.toInt) ∧
      ∃ number, operator.apply (.integer left) (.integer right) = .ok (.float number) ∧
        rational? number = some (rounded exactly left.toInt right.toInt : ℚ)) := by
  obtain ⟨number, isWhole, applied⟩ := closed.exists_apply_eq left right
  have missing : Numeral.int64OfInt? (exactly left.toInt right.toInt) = none := if_neg overflows
  rw [missing, Option.map_none, Option.getD_none] at applied
  rcases isWhole.value_number with ⟨whole, isInteger, same⟩ | ⟨outside, isFloat⟩
  · refine .inl ⟨?_, whole, by rw [applied, isInteger], same⟩
    rw [← same]
    exact isInt64_toInt whole
  · exact .inr ⟨outside, number, by rw [applied, isFloat], isWhole.rational?_eq⟩

end Closed

/-- An operator on integers gives the exact result if that fits 64 bits. Otherwise it gives the
rounded result, as a float if it does not fit either. So integers are exact and results beyond 64
bits are floats, unless the rounded result fits although the exact one does not. For sums and
differences this only happens below the range, and what comes out is the least integer. -/
theorem apply_integer_exact_iff (closed : Closed operator exactly) (left right : Int64) :
    let result := exactly left.toInt right.toInt
    let applied := operator.apply (.integer left) (.integer right)
    let approximate := rounded exactly left.toInt right.toInt
    ((∀ whole, applied = .ok (.integer whole) → whole.toInt = result) ∧
      (¬ IsInt64 result → ∃ number, applied = .ok (.float number)) ↔
        (IsInt64 result ∨ ¬ IsInt64 approximate)) ∧
    (IsInt64 result → ∃ whole, applied = .ok (.integer whole) ∧ whole.toInt = result) ∧
    (¬ IsInt64 result → ¬ IsInt64 approximate →
      ∃ number, applied = .ok (.float number) ∧ rational? number = some (approximate : ℚ)) ∧
    (¬ IsInt64 result → IsInt64 approximate →
      ∃ whole, applied = .ok (.integer whole) ∧ whole.toInt = approximate ∧
        (operator ≠ multiply → whole = Int64.minValue ∧ result < -2 ^ 63)) := by
  intro result applied approximate
  have fitting (fits : IsInt64 result) :
      ∃ whole, applied = .ok (.integer whole) ∧ whole.toInt = result := closed.apply_of_isInt64 fits
  have floating (overflows : ¬ IsInt64 result) (outside : ¬ IsInt64 approximate) :
      ∃ number, applied = .ok (.float number) ∧ rational? number = some (approximate : ℚ) := by
    rcases closed.apply_of_not_isInt64 overflows with ⟨inside, -⟩ | ⟨-, float⟩
    · exact absurd inside outside
    · exact float
  have wrong (overflows : ¬ IsInt64 result) (inside : IsInt64 approximate) :
      ∃ whole, applied = .ok (.integer whole) ∧ whole.toInt = approximate ∧
        (operator ≠ multiply → whole = Int64.minValue ∧ result < -2 ^ 63) := by
    rcases closed.apply_of_not_isInt64 overflows with ⟨-, whole, integer, same⟩ | ⟨outside, -⟩
    · refine ⟨whole, integer, same, fun notProduct => ?_⟩
      obtain ⟨least, below⟩ := closed.rounded_of_not_isInt64 notProduct overflows inside
      refine ⟨Int64.toInt_inj.1 ?_, below⟩
      rw [same, least]
      rfl
    · exact absurd inside outside
  refine ⟨⟨?_, ?_⟩, fitting, floating, wrong⟩
  · rintro ⟨-, floats⟩
    by_contra neither
    rw [not_or, not_not] at neither
    obtain ⟨whole, integer, -⟩ := wrong neither.1 neither.2
    obtain ⟨number, float⟩ := floats neither.1
    cases integer.symm.trans float
  · intro either
    by_cases fits : IsInt64 result
    · obtain ⟨whole, integer, same⟩ := fitting fits
      refine ⟨?_, fun overflows => absurd fits overflows⟩
      intro other otherInteger
      cases integer.symm.trans otherInteger
      exact same
    · obtain ⟨number, float, -⟩ := floating fits (either.resolve_left fits)
      refine ⟨?_, fun _ => ⟨number, float⟩⟩
      intro whole integer
      cases integer.symm.trans float

/-- The sum of two integers that is just too large is a float. -/
theorem apply_integer_exact_iff_sum :
    Closed add (· + ·) ∧ ∃ number,
      add.apply (.integer 0x4000000000000000) (.integer 0x4000000000000000) = .ok (.float number) ∧
        rational? number = some (0x8000000000000000 : Int) := by
  have approximate : rounded (· + ·) (0x4000000000000000 : Int64).toInt
      (0x4000000000000000 : Int64).toInt = 0x8000000000000000 := by decide
  obtain ⟨-, -, float, -⟩ :=
    apply_integer_exact_iff .add (0x4000000000000000 : Int64) (0x4000000000000000 : Int64)
  rw [approximate] at float
  exact ⟨.add, float (by decide) (by decide)⟩

/-- One less than the least integer is rounded to the least integer. -/
theorem apply_subtract_minValue :
    subtract.apply (.integer Int64.minValue) (.integer 1) = .ok (.integer Int64.minValue) ∧
      ¬ IsInt64 (Int64.minValue.toInt - (1 : Int64).toInt) ∧
      Int64.minValue.toInt ≠ Int64.minValue.toInt - (1 : Int64).toInt :=
  ⟨rfl, by decide, by decide⟩

end BinaryOperator

end SyntaxFold
