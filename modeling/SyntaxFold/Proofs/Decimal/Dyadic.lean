import Mathlib.Algebra.Order.Field.Rat
import Mathlib.Data.Rat.Cast.Order
import Mathlib.Tactic.Positivity
import Mathlib.Tactic.Ring
import SyntaxFold.Proofs.Numeral

/-!
# Doubles that equal integers

A finite double stands for a rational number. Whether that number is an integer is decided here on
the significand and the exponent, and this module says that the decision is right: a double becomes
an integer of 64 bits exactly when both are the same rational number.
-/

namespace SyntaxFold

namespace Dyadic

/-- The significand with its sign. -/
def signed (number : Dyadic) : Int :=
  if number.negative then -number.significand else number.significand

/-- The rational number that is meant. -/
def toRat (number : Dyadic) : ℚ := number.signed * 2 ^ number.exponent

theorem toRat_eq_int_iff_of_nonneg {number : Dyadic} (nonneg : 0 ≤ number.exponent) {whole : Int} :
    number.toRat = whole ↔ number.signed * 2 ^ number.exponent.toNat = whole := by
  have power : (2 : ℚ) ^ number.exponent = (2 : ℚ) ^ number.exponent.toNat := by
    rw [← zpow_natCast, Int.toNat_of_nonneg nonneg]
  rw [toRat, power]
  exact_mod_cast Iff.rfl

theorem toRat_eq_int_iff_of_neg {number : Dyadic} (negative : number.exponent < 0) {whole : Int} :
    number.toRat = whole ↔ number.signed = whole * 2 ^ (-number.exponent).toNat := by
  have power : (2 : ℚ) ^ number.exponent = ((2 : ℚ) ^ (-number.exponent).toNat)⁻¹ := by
    rw [← zpow_natCast, Int.toNat_of_nonneg (by omega), zpow_neg, inv_inv]
  rw [toRat, power, ← div_eq_mul_inv, div_eq_iff (by positivity)]
  exact_mod_cast Iff.rfl

/-- A signed number is a multiple of a unit exactly when its magnitude is divisible by the unit. -/
theorem signed_eq_mul_iff {number : Dyadic} {unit : Nat} (pos : 0 < unit) {whole : Int} :
    number.signed = whole * unit ↔
      number.significand % unit = 0 ∧
        (if number.negative then -((number.significand / unit : Nat) : Int)
          else ((number.significand / unit : Nat) : Int)) = whole := by
  have unitNeZero : (unit : Int) ≠ 0 := by omega
  constructor
  · intro equal
    have divides : (unit : Int) ∣ number.significand := by
      have : (unit : Int) ∣ number.signed := ⟨whole, by rw [equal, Int.mul_comm]⟩
      unfold signed at this
      split at this
      · exact (Int.dvd_neg).1 this
      · exact this
    obtain ⟨quotient, product⟩ := Int.natCast_dvd_natCast.1 divides
    refine ⟨by simp [product], ?_⟩
    rw [product, Nat.mul_div_cancel_left _ pos]
    unfold signed at equal
    rw [product] at equal
    apply Int.eq_of_mul_eq_mul_right unitNeZero
    rw [← equal]
    split <;> push_cast <;> ring
  · rintro ⟨divisible, rfl⟩
    obtain ⟨quotient, product⟩ := Nat.dvd_of_mod_eq_zero divisible
    unfold signed
    rw [product, Nat.mul_div_cancel_left _ pos]
    split <;> push_cast <;> ring

/-- The decision whether a number is an integer agrees with the rational number that is meant. -/
theorem toInt?_eq_some_iff {number : Dyadic} {whole : Int} :
    number.toInt? = some whole ↔ number.toRat = whole := by
  unfold toInt?
  dsimp only
  split
  · next nonneg =>
      rw [toRat_eq_int_iff_of_nonneg nonneg, Option.some_inj, signed, Nat.shiftLeft_eq]
      split <;> push_cast <;> simp
  · next negative =>
      rw [toRat_eq_int_iff_of_neg (by omega), Nat.one_shiftLeft]
      have powerCast : (2 : Int) ^ (-number.exponent).toNat =
          ((2 ^ (-number.exponent).toNat : Nat) : Int) := by push_cast; rfl
      rw [powerCast, signed_eq_mul_iff (Nat.two_pow_pos _)]
      split <;> simp_all

end Dyadic

/-- The rational number that a finite double stands for. -/
def rational? (number : Float) : Option ℚ := (Dyadic.ofFloat? number).map Dyadic.toRat

/-- A double is read as an integer exactly when it stands for that integer. -/
theorem int64OfFloat?_eq_some_iff {number : Float} {whole : Int64} :
    int64OfFloat? number = some whole ↔ rational? number = some (whole.toInt : ℚ) := by
  unfold int64OfFloat? rational?
  cases Dyadic.ofFloat? number with
  | none => simp
  | some dyadic =>
      simp only [Option.bind_some, Option.map_some, Option.some_inj, Option.bind_eq_some_iff,
        Numeral.int64OfInt?_eq_some_iff, Dyadic.toInt?_eq_some_iff]
      constructor
      · rintro ⟨value, equal, rfl⟩
        exact equal
      · intro equal
        exact ⟨whole.toInt, equal, rfl⟩

/-- A double is finite and stands for an integer that fits 64 bits. -/
def FitsInt64 (number : Float) : Prop :=
  ∃ whole : Int, rational? number = some (whole : ℚ) ∧
    -0x8000000000000000 ≤ whole ∧ whole < 0x8000000000000000

/-- Exactly the doubles that stand for an integer of 64 bits are read as one. -/
theorem int64OfFloat?_eq_none_iff {number : Float} :
    int64OfFloat? number = none ↔ ¬ FitsInt64 number := by
  constructor
  · rintro unread ⟨whole, stands, inRange⟩
    have fits : Numeral.int64OfInt? whole = some (Int64.ofInt whole) := if_pos inRange
    have same : whole = (Int64.ofInt whole).toInt :=
      Numeral.int64OfInt?_eq_some_iff.1 fits
    rw [same] at stands
    rw [int64OfFloat?_eq_some_iff.2 stands] at unread
    cases unread
  · intro outside
    cases read : int64OfFloat? number with
    | none => rfl
    | some whole =>
        have stands := int64OfFloat?_eq_some_iff.1 read
        exact absurd ⟨whole.toInt, stands, whole.le_toInt, whole.toInt_lt⟩ outside

end SyntaxFold
