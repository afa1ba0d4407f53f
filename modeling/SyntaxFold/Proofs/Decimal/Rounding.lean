import Mathlib.Data.Nat.Log
import Mathlib.Tactic.Ring

/-!
# Rounding to 53 bits

A double has 53 significant bits. This module says on integers alone what becomes of an integer that
has more: the bits that do not fit are rounded off, halves to the even neighbour. Rounding commutes
with doubling, so only the significant bits matter, and it moves a number by half the unit of its
last place at most.
-/

namespace SyntaxFold.Rounding

/-! ## Quotients by powers of two -/

/-- A number divided by a power of two and rounded, halves to the even neighbour. -/
def halfEven (number places : Nat) : Nat :=
  let floor := number / 2 ^ places
  let rest := number % 2 ^ places
  if 2 * rest < 2 ^ places then floor
  else if 2 * rest = 2 ^ places then floor + floor % 2
  else floor + 1

theorem halfEven_zero (number : Nat) : halfEven number 0 = number := by
  simp [halfEven, Nat.mod_one]

/-- Doubling changes nothing if one more place is rounded off. -/
theorem halfEven_mul_two_pow (number places more : Nat) :
    halfEven (number * 2 ^ more) (places + more) = halfEven number places := by
  have pos := Nat.two_pow_pos more
  have less (rest : Nat) : 2 * (rest * 2 ^ more) < 2 ^ places * 2 ^ more ↔
      2 * rest < 2 ^ places := by
    rw [← Nat.mul_assoc]
    exact Nat.mul_lt_mul_right pos
  have equal (rest : Nat) : 2 * (rest * 2 ^ more) = 2 ^ places * 2 ^ more ↔
      2 * rest = 2 ^ places := by
    rw [← Nat.mul_assoc]
    exact Nat.mul_left_inj (Nat.pos_iff_ne_zero.1 pos)
  simp only [halfEven, pow_add, Nat.mul_mod_mul_right, Nat.mul_div_mul_right _ _ pos, less, equal]

/-- A multiple of the unit of the last place is not rounded. -/
theorem halfEven_of_mul (number places : Nat) : halfEven (number * 2 ^ places) places = number := by
  have shifted := halfEven_mul_two_pow number 0 places
  rwa [Nat.zero_add, halfEven_zero] at shifted

theorem div_le_halfEven (number places : Nat) : number / 2 ^ places ≤ halfEven number places := by
  simp only [halfEven]
  split
  · omega
  · split <;> omega

theorem halfEven_le_div_add_one (number places : Nat) :
    halfEven number places ≤ number / 2 ^ places + 1 := by
  simp only [halfEven]
  split
  · omega
  · split <;> omega

/-- Rounding down loses half a unit at most. -/
theorem le_halfEven (number places : Nat) :
    2 * number ≤ 2 * (halfEven number places * 2 ^ places) + 2 ^ places := by
  have parts := Nat.div_add_mod number (2 ^ places)
  have small := Nat.mod_lt number (Nat.two_pow_pos places)
  have sandwich := Nat.mul_le_mul_right (2 ^ places) (div_le_halfEven number places)
  rw [Nat.mul_comm] at parts
  by_cases below : 2 * (number % 2 ^ places) ≤ 2 ^ places
  · omega
  · have up : halfEven number places = number / 2 ^ places + 1 := by
      simp only [halfEven]
      rw [if_neg (by omega), if_neg (by omega)]
    rw [up, Nat.add_mul]
    omega

/-! ## Significant bits -/

/-- How many of the low bits of a number do not fit 53 bits. -/
def excess (number : Nat) : Nat := number.log2 - 52

/-- The number rounded to 53 significant bits. -/
def nearest (number : Nat) : Nat := halfEven number (excess number) * 2 ^ excess number

theorem log2_mul_two_pow {number : Nat} (nonzero : number ≠ 0) (more : Nat) :
    (number * 2 ^ more).log2 = number.log2 + more := by
  have pos := Nat.two_pow_pos more
  rw [Nat.log2_eq_iff (Nat.mul_ne_zero nonzero (Nat.pos_iff_ne_zero.1 pos)), pow_add,
    Nat.add_right_comm, pow_add _ (_ + 1)]
  exact ⟨Nat.mul_le_mul_right _ (Nat.log2_self_le nonzero),
    Nat.mul_lt_mul_of_pos_right Nat.lt_log2_self pos⟩

theorem excess_eq_zero_of_lt {number : Nat} (small : number < 2 ^ 53) : excess number = 0 := by
  by_cases nonzero : number = 0
  · rw [nonzero]
    rfl
  · have short := (Nat.log2_lt nonzero).2 small
    rw [excess]
    omega

/-- A number of 53 bits is not rounded. -/
theorem nearest_of_lt {number : Nat} (small : number < 2 ^ 53) : nearest number = number := by
  rw [nearest, excess_eq_zero_of_lt small, halfEven_zero, pow_zero, Nat.mul_one]

theorem nearest_mul_two_pow (number more : Nat) :
    nearest (number * 2 ^ more) = nearest number * 2 ^ more := by
  by_cases nonzero : number = 0
  · rw [nonzero, Nat.zero_mul, show nearest 0 = 0 from rfl, Nat.zero_mul]
  have length := log2_mul_two_pow nonzero more
  rcases Nat.lt_or_ge number.log2 52 with short | long
  · have fits : number < 2 ^ 53 := by
      have bounded := (Nat.log2_lt nonzero).1 short
      omega
    have fewer : excess (number * 2 ^ more) ≤ more := by
      rw [excess, length]
      omega
    -- All the bits that are rounded off were added by the doubling.
    obtain ⟨kept, split⟩ := Nat.exists_eq_add_of_le fewer
    have doubled : number * 2 ^ more = number * 2 ^ kept * 2 ^ excess (number * 2 ^ more) := by
      rw [Nat.mul_assoc, ← pow_add, Nat.add_comm kept, ← split]
    rw [nearest_of_lt fits, nearest]
    conv_lhs => arg 1; arg 1; rw [doubled]
    rw [halfEven_of_mul, ← doubled]
  · have more' : excess (number * 2 ^ more) = excess number + more := by
      rw [excess, excess, length]
      omega
    rw [nearest, more', halfEven_mul_two_pow, nearest, pow_add, Nat.mul_assoc]

/-- A number with 53 significant bits is not rounded. -/
theorem nearest_of_scaled {number significand more fewer : Nat} (small : significand < 2 ^ 53)
    (scaled : significand * 2 ^ more = number * 2 ^ fewer) : nearest number = number := by
  apply Nat.eq_of_mul_eq_mul_right (Nat.two_pow_pos fewer)
  rw [← nearest_mul_two_pow, ← scaled, nearest_mul_two_pow, nearest_of_lt small]

theorem log2_eq_add_excess {number : Nat} (long : 2 ^ 52 ≤ number) :
    number.log2 = 52 + excess number := by
  have length := (Nat.le_log2 (by omega)).2 long
  rw [excess]
  omega

/-- With at least 53 bits, the significand has 53 bits after rounding, unless it carries over. -/
theorem halfEven_excess_bounds {number : Nat} (long : 2 ^ 52 ≤ number) :
    2 ^ 52 ≤ halfEven number (excess number) ∧ halfEven number (excess number) ≤ 2 ^ 53 := by
  have least := Nat.log2_self_le (n := number) (by omega)
  have greatest := Nat.lt_log2_self (n := number)
  rw [log2_eq_add_excess long, pow_add] at least
  rw [log2_eq_add_excess long, Nat.add_right_comm, pow_add] at greatest
  have pos := Nat.two_pow_pos (excess number)
  constructor
  · exact le_trans ((Nat.le_div_iff_mul_le pos).2 least) (div_le_halfEven _ _)
  · exact le_trans (halfEven_le_div_add_one _ _) ((Nat.div_lt_iff_lt_mul pos).2 greatest)

/-- Rounding does not change the leading bit, unless it carries over. -/
theorem nearest_bounds {number : Nat} (nonzero : number ≠ 0) :
    2 ^ number.log2 ≤ nearest number ∧ nearest number ≤ 2 ^ (number.log2 + 1) := by
  rcases Nat.lt_or_ge number (2 ^ 52) with short | long
  · rw [nearest_of_lt (by omega)]
    exact ⟨Nat.log2_self_le nonzero, Nat.le_of_lt Nat.lt_log2_self⟩
  · obtain ⟨least, greatest⟩ := halfEven_excess_bounds long
    rw [log2_eq_add_excess long, Nat.add_right_comm, pow_add, pow_add, nearest]
    exact ⟨Nat.mul_le_mul_right _ least, Nat.mul_le_mul_right _ greatest⟩

theorem nearest_le (number : Nat) : nearest number ≤ 2 * number := by
  by_cases nonzero : number = 0
  · rw [nonzero]
    decide
  · have least := Nat.log2_self_le nonzero
    have greatest := (nearest_bounds nonzero).2
    rw [pow_succ] at greatest
    omega

theorem two_pow_le_nearest (places : Nat) {number : Nat} (big : 2 ^ places ≤ number) :
    2 ^ places ≤ nearest number := by
  have nonzero : number ≠ 0 := Nat.pos_iff_ne_zero.1 (le_trans (Nat.two_pow_pos places) big)
  exact le_trans (Nat.pow_le_pow_right (by decide) ((Nat.le_log2 nonzero).2 big))
    (nearest_bounds nonzero).1

/-- Rounding down loses half the unit of the last place at most. -/
theorem le_nearest (number : Nat) : 2 * number ≤ 2 * nearest number + 2 ^ excess number :=
  le_halfEven number (excess number)

theorem two_pow_dvd_nearest {number places : Nat} (fewer : places ≤ excess number) :
    2 ^ places ∣ nearest number :=
  Dvd.dvd.mul_left (pow_dvd_pow 2 fewer) _

/-! ## Sums that need a bit more -/

/-- Half a unit below a power of two is rounded up, since the significand there is odd. -/
theorem two_pow_le_nearest_of_close {number : Nat} (close : 2 ^ 63 - 512 ≤ number) :
    2 ^ 63 ≤ nearest number := by
  rcases Nat.lt_or_ge number (2 ^ 63) with below | above
  · have ten : excess number = 10 := by
      rw [excess, (Nat.log2_eq_iff (k := 62) (by omega)).2 (by omega)]
    have up : halfEven number 10 = 2 ^ 53 := by
      simp only [halfEven]
      split
      · omega
      · split <;> omega
    rw [nearest, ten, up]
    decide
  · exact two_pow_le_nearest 63 above

/-- Rounding does not bring a sum below the power of two that it reaches. The larger summand loses
512 at most and the smaller one half its unit, but the rounded ones are multiples of that unit. -/
theorem two_pow_le_nearest_add {larger smaller : Nat} (ordered : smaller ≤ larger)
    (reaches : 2 ^ 63 ≤ larger + smaller) :
    2 ^ 63 ≤ nearest (nearest larger + nearest smaller) := by
  apply two_pow_le_nearest_of_close
  have largerBig : 2 ^ 62 ≤ nearest larger := two_pow_le_nearest 62 (by omega)
  rcases Nat.lt_or_ge larger (2 ^ 63) with fits | alone
  · rcases Nat.lt_or_ge smaller (2 ^ 62) with small | big
    · have ten : excess larger = 10 := by
        rw [excess, (Nat.log2_eq_iff (k := 62) (by omega)).2 (by omega)]
      have nine : excess smaller ≤ 9 := by
        have length := (Nat.log2_lt (n := smaller) (k := 62) (by omega)).2 small
        rw [excess]
        omega
      have unit : 2 ^ excess smaller ∣ nearest larger + nearest smaller :=
        Nat.dvd_add (two_pow_dvd_nearest (by omega)) (two_pow_dvd_nearest le_rfl)
      have unit' : 2 ^ excess smaller ∣ 2 ^ 63 - 512 := dvd_trans (pow_dvd_pow 2 nine) (by decide)
      have largerLoss := le_nearest larger
      have smallerLoss := le_nearest smaller
      rw [ten] at largerLoss
      by_contra close
      have apart := Nat.le_of_dvd (by omega) (Nat.dvd_sub unit' unit)
      omega
    · have smallerBig := two_pow_le_nearest 62 big
      omega
  · have reached := two_pow_le_nearest 63 alone
    omega

/-- An integer rounded to 53 significant bits. -/
def nearestInt (number : Int) : Int := number.sign * nearest number.natAbs

theorem nearestInt_natCast (number : Nat) : nearestInt number = nearest number := by
  rcases Nat.eq_zero_or_pos number with rfl | pos
  · rfl
  · rw [nearestInt, Int.sign_eq_one_of_pos (by exact_mod_cast pos), Int.one_mul, Int.natAbs_natCast]

theorem nearestInt_neg (number : Int) : nearestInt (-number) = -nearestInt number := by
  rw [nearestInt, nearestInt, Int.sign_neg, Int.natAbs_neg, Int.neg_mul]

theorem natAbs_nearestInt_le (number : Int) : (nearestInt number).natAbs ≤ 2 * number.natAbs := by
  by_cases nonzero : number = 0
  · rw [nonzero]
    decide
  · rw [nearestInt, Int.natAbs_mul, Int.natAbs_sign_of_ne_zero nonzero, Nat.one_mul,
      Int.natAbs_natCast]
    exact nearest_le number.natAbs

end SyntaxFold.Rounding
