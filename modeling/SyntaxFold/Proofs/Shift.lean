import Mathlib.Data.Rat.Floor
import SyntaxFold.Operator

/-!
# Right shifts

A shift to the right divides by a power of two and rounds down. A 64-bit integer has its sign in
every place from the 63rd on, so a shift by more places than that still is this division, although
it is carried out as a shift by 63.
-/

namespace SyntaxFold

namespace BinaryOperator

section Places

variable {number : Int} (below : -2 ^ 63 ≤ number) (above : number < 2 ^ 63)
include below above

/-- A shift by 63 places or more leaves the sign. -/
theorem shiftRight_eq_sign {places : Nat} (many : 63 ≤ places) :
    number >>> places = if number < 0 then -1 else 0 := by
  have power : (2 : Int) ^ 63 ≤ 2 ^ places := by
    exact_mod_cast Nat.pow_le_pow_right Nat.two_pos many
  rw [Int.shiftRight_eq_div_pow, Int.natCast_pow]
  split
  · next negative =>
      apply Int.ediv_eq_neg_one_of_neg_of_le negative
      exact Int.le_trans (Int.neg_le_of_neg_le below) power
  · next nonnegative =>
      apply Int.ediv_eq_zero_of_lt (Int.not_lt.1 nonnegative)
      exact Int.lt_of_lt_of_le above power

/-- More than 63 places are no different from 63. -/
theorem shiftRight_min (places : Nat) : number >>> min places 63 = number >>> places := by
  rcases Nat.le_total places 63 with few | many
  · rw [Nat.min_eq_left few]
  · rw [Nat.min_eq_right many, shiftRight_eq_sign below above many,
      shiftRight_eq_sign below above (Nat.le_refl 63)]

/-- What is shifted to the right still fits. -/
theorem shiftRight_bounds (places : Nat) :
    -2 ^ 63 ≤ number >>> places ∧ number >>> places < 2 ^ 63 := by
  rcases Int.le_total 0 number with nonnegative | nonpositive
  · have least := Int.le_shiftRight_of_nonneg (s := places) nonnegative
    have most := Int.shiftRight_le_of_nonneg (s := places) nonnegative
    omega
  · have least := Int.le_shiftRight_of_nonpos (s := places) nonpositive
    have most := Int.shiftRight_le_of_nonpos (s := places) nonpositive
    omega

end Places

/-- A shift rounds the quotient by a power of two down. -/
theorem shiftRight_eq_floor (number : Int) (places : Nat) :
    number >>> places = ⌊(number : ℚ) / 2 ^ places⌋ := by
  rw [Int.shiftRight_eq_div_pow, ← Rat.floor_intCast_div_natCast, Nat.cast_pow, Nat.cast_ofNat]

/-- The shift of an integer by any nonnegative amount is the floor of its quotient by this power of
two. A negative amount is refused, and so is everything that is not an integer. -/
theorem apply_shiftRight_eq_floor (left right : Int64) :
    (0 ≤ right.toInt → ∃ shifted : Int64,
      shiftRight.apply (.integer left) (.integer right) = .ok (.integer shifted) ∧
        shifted.toInt = ⌊(left.toInt : ℚ) / 2 ^ right.toInt.toNat⌋) ∧
    (right.toInt < 0 → shiftRight.apply (.integer left) (.integer right) =
      .error (.invalidOperands ">>" .integer .integer)) ∧
    ∀ value amount : Value, value.int64? = none ∨ amount.int64? = none →
      shiftRight.apply value amount = .error (.invalidOperands ">>" value.type amount.type) := by
  have below := left.le_toInt
  have above := left.toInt_lt
  refine ⟨?_, ?_, ?_⟩
  · intro nonnegative
    have bounds := shiftRight_bounds below above right.toInt.toNat
    refine ⟨.ofInt (left.toInt >>> right.toInt.toNat), ?_, ?_⟩
    · rw [apply, shifted, if_pos nonnegative, shiftRight_min below above]
    · rw [Int64.toInt_ofInt_of_le bounds.1 bounds.2, shiftRight_eq_floor]
  · intro negative
    rw [apply, shifted, if_neg (Int.not_le.2 negative)]
    rfl
  · rintro value amount (noInteger | noInteger)
    · cases value with
      | integer number => cases noInteger
      | _ => rfl
    · cases amount with
      | integer number => cases noInteger
      | _ => cases value <;> rfl

/-- Eighty places leave the sign of a negative integer. -/
theorem apply_shiftRight_eq_floor_eighty :
    (0 ≤ (80 : Int64).toInt ∧ (-1 : Int64).toInt < 0 ∧ (Value.float 0).int64? = none) ∧
      (∃ shifted : Int64, shiftRight.apply (.integer (-8)) (.integer 80) = .ok (.integer shifted) ∧
        shifted.toInt = ⌊((-8 : Int64).toInt : ℚ) / 2 ^ (80 : Int64).toInt.toNat⌋) ∧
      shiftRight.apply (.integer (-8)) (.integer (-1)) =
        .error (.invalidOperands ">>" .integer .integer) ∧
      shiftRight.apply (.float 0) (.integer 1) =
        .error (.invalidOperands ">>" .float .integer) := by
  have nonnegative : 0 ≤ (80 : Int64).toInt := by decide
  have negative : (-1 : Int64).toInt < 0 := by decide
  have noInteger : (Value.float 0).int64? = none := rfl
  refine ⟨⟨nonnegative, negative, noInteger⟩, ?_, ?_, ?_⟩
  · exact (apply_shiftRight_eq_floor (-8) 80).1 nonnegative
  · exact (apply_shiftRight_eq_floor (-8) (-1)).2.1 negative
  · exact (apply_shiftRight_eq_floor 0 0).2.2 _ _ (.inl noInteger)

end BinaryOperator

end SyntaxFold
