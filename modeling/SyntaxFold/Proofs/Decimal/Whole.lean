import SyntaxFold.Proofs.Decimal.Rounding
import SyntaxFold.Proofs.Decimal.Unpacked

/-!
# Arithmetic of doubles that are integers

A double that is an integer has a significand of 53 bits and an exponent, or is zero. `Whole` says
so about the unpacked form of a double. Sums, differences and products of such doubles are integers
again: the exact results, rounded to 53 bits.
-/

namespace SyntaxFold

open Float.Model Float.Model.UnpackedFloat Rounding

/-! ## Rounding the unpacked form -/

/-- Whether something is rounded off. -/
def isInexact : Accuracy → Bool
  | .exact => false
  | .inexact _ => true

/-- Halving a rounded quotient: the last bit joins the fraction that is rounded off. -/
theorem shiftRightOne_ofFraction {quotient rest unit : Nat} (small : rest < unit) :
    (ExtendedMantissa.ofMantissaAndAccuracy quotient (accuracyOfFraction rest unit)).shiftRightOne =
      ExtendedMantissa.ofMantissaAndAccuracy (quotient / 2)
        (accuracyOfFraction (rest + unit * (quotient % 2)) (unit * 2)) := by
  have bits (accuracy : Accuracy) :
      (ExtendedMantissa.ofMantissaAndAccuracy quotient accuracy).shiftRightOne =
        ⟨quotient / 2, quotient % 2 != 0, isInexact accuracy⟩ := by
    cases accuracy with
    | exact => rfl
    | inexact order => cases order <;> rfl
  rw [bits]
  rcases Nat.mod_two_eq_zero_or_one quotient with even | odd
  · by_cases whole : rest = 0
    · simp [even, whole, accuracyOfFraction, isInexact, ExtendedMantissa.ofMantissaAndAccuracy]
    · have less : compare (2 * rest) (unit * 2) = .lt := Nat.compare_eq_lt.2 (by omega)
      simp [even, whole, less, accuracyOfFraction, isInexact,
        ExtendedMantissa.ofMantissaAndAccuracy]
  · by_cases whole : rest = 0
    · have same : compare (2 * unit) (unit * 2) = .eq := Nat.compare_eq_eq.2 (by omega)
      have pos : unit ≠ 0 := by omega
      simp [odd, whole, pos, same, accuracyOfFraction, isInexact,
        ExtendedMantissa.ofMantissaAndAccuracy]
    · have more : compare (2 * (rest + unit)) (unit * 2) = .gt := Nat.compare_eq_gt.2 (by omega)
      simp [odd, whole, more, accuracyOfFraction, isInexact,
        ExtendedMantissa.ofMantissaAndAccuracy]

/-- Shifting a significand keeps track of how the quotient is to be rounded. -/
theorem shiftRight_ofMantissa (significand places : Nat) :
    ExtendedMantissa.ofMantissaAndAccuracy significand .exact >>> places =
      ExtendedMantissa.ofMantissaAndAccuracy (significand / 2 ^ places)
        (accuracyOfFraction (significand % 2 ^ places) (2 ^ places)) := by
  induction places with
  | zero => simp [Nat.mod_one, accuracyOfFraction, HShiftRight.hShiftRight, Nat.repeat]
  | succ places ih =>
      let unshifted := ExtendedMantissa.ofMantissaAndAccuracy significand .exact
      have step : unshifted >>> (places + 1) = (unshifted >>> places).shiftRightOne := rfl
      have small := Nat.mod_lt significand (Nat.two_pow_pos places)
      rw [step, ih, shiftRightOne_ofFraction small, Nat.mod_pow_succ, pow_succ,
        Nat.div_div_eq_div_mul]

theorem roundedMantissa_eq_halfEven (significand places : Nat) :
    (ExtendedMantissa.ofMantissaAndAccuracy significand .exact >>> places).roundedMantissa =
      halfEven significand places := by
  have accuracy_of (quotient : Nat) (accuracy : Accuracy) :
      (ExtendedMantissa.ofMantissaAndAccuracy quotient accuracy).roundedMantissa =
        accuracy.roundToNearestEven quotient := by
    cases accuracy with
    | exact => rfl
    | inexact order => cases order <;> rfl
  have pos := Nat.two_pow_pos places
  rw [shiftRight_ofMantissa, accuracy_of, accuracyOfFraction, halfEven]
  by_cases whole : significand % 2 ^ places = 0
  · simp [whole, Accuracy.roundToNearestEven]
  · simp only [whole, if_false]
    rcases Nat.lt_trichotomy (2 * (significand % 2 ^ places)) (2 ^ places) with less | same | more
    · rw [Nat.compare_eq_lt.2 less, if_pos less]
      rfl
    · rw [Nat.compare_eq_eq.2 same, if_neg (by omega), if_pos same]
      rfl
    · rw [Nat.compare_eq_gt.2 more, if_neg (by omega), if_neg (by omega)]
      rfl

theorem shiftToTargetExponent_eq (significand : Nat) {exponent : Int} (normal : -1074 ≤ exponent) :
    shiftToTargetExponent .binary64 significand exponent .exact =
      (ExtendedMantissa.ofMantissaAndAccuracy significand .exact >>> excess significand,
        exponent + excess significand) := by
  have places : (Format.targetExponent .binary64 (totalExponent significand exponent) -
      exponent).toNat = excess significand := by
    simp only [Format.targetExponent, totalExponent, Format.mantissaBits, Format.minExponent,
      excess]
    omega
  rw [shiftToTargetExponent, shiftToExponent, places]

theorem mantissa_shiftRight (significand places : Nat) :
    (ExtendedMantissa.ofMantissaAndAccuracy significand .exact >>> places).mantissa =
      significand / 2 ^ places := by
  rw [shiftRight_ofMantissa]
  generalize accuracyOfFraction _ _ = accuracy
  cases accuracy with
  | exact => rfl
  | inexact order => cases order <;> rfl

/-- A significand is rounded, and once more if it carries over. -/
theorem roundWithAccuracy_eq {significand : Nat} {exponent : Int} (sign : Sign)
    (normal : -1074 ≤ exponent) {rounded final : Nat}
    (isRounded : halfEven significand (excess significand) = rounded)
    (isFinal : rounded / 2 ^ excess rounded = final) (pos : 0 < final) :
    roundWithAccuracy .binary64 sign significand exponent .exact =
      .finite sign final (exponent + excess significand + excess rounded) pos := by
  have first := shiftToTargetExponent_eq significand normal
  have stillNormal : -1074 ≤ exponent + excess significand := by omega
  have second := shiftToTargetExponent_eq rounded stillNormal
  have nonzero : final ≠ 0 := Nat.pos_iff_ne_zero.1 pos
  simp only [roundWithAccuracy, first, roundedMantissa_eq_halfEven, isRounded, second,
    mantissa_shiftRight, isFinal, nonzero, dite_false]

/-- A rounded significand that carries over is halved, and then has 53 bits. -/
theorem exists_of_carry {rounded : Nat} (least : 2 ^ 52 ≤ rounded) (greatest : rounded ≤ 2 ^ 53) :
    ∃ final, rounded / 2 ^ excess rounded = final ∧ final * 2 ^ excess rounded = rounded ∧
      2 ^ 52 ≤ final ∧ final < 2 ^ 53 := by
  rcases Nat.lt_or_eq_of_le greatest with short | rfl
  · rw [excess_eq_zero_of_lt short]
    exact ⟨rounded, by rw [pow_zero, Nat.div_one], by rw [pow_zero, Nat.mul_one], least, short⟩
  · exact ⟨2 ^ 52, by decide⟩

/-! ## Integers in unpacked form -/

/-- An unpacked double that is an integer: zero, or a significand of 53 bits times a power of two
that gives the magnitude. -/
inductive Whole : UnpackedFloat → Int → Prop
  | zero (sign : Sign) : Whole (.zero sign) 0
  | finite {sign : Sign} (places : Nat) {significand magnitude : Nat} {exponent : Int}
      {pos : 0 < significand} : 2 ^ 52 ≤ significand → significand < 2 ^ 53 →
        exponent = places - 52 → significand * 2 ^ places = magnitude * 2 ^ 52 →
          Whole (.finite sign significand exponent pos) (sign.apply magnitude)

/-- The exponent of an integer is at least -52, since the integer is not zero. -/
theorem le_places_of_scaled {significand places magnitude : Nat} (long : 2 ^ 52 ≤ significand)
    (scaled : significand * 2 ^ places = magnitude * 2 ^ 104) :
    52 ≤ places + excess significand := by
  have pos : 0 < magnitude * 2 ^ 104 := by
    rw [← scaled]
    exact Nat.mul_pos (by omega) (Nat.two_pow_pos places)
  have product : 2 ^ 104 < 2 ^ (53 + excess significand + places) := by
    calc 2 ^ 104 ≤ magnitude * 2 ^ 104 :=
          Nat.le_mul_of_pos_left _ (Nat.pos_of_mul_pos_right pos)
      _ = significand * 2 ^ places := scaled.symm
      _ < 2 ^ (53 + excess significand) * 2 ^ places := by
        apply Nat.mul_lt_mul_of_pos_right _ (Nat.two_pow_pos places)
        have length := Nat.lt_log2_self (n := significand)
        rwa [log2_eq_add_excess long, Nat.add_right_comm] at length
      _ = 2 ^ (53 + excess significand + places) := (pow_add 2 _ _).symm
  have exponents := (Nat.pow_lt_pow_iff_right (by decide)).1 product
  omega

/-- A significand of at least 53 bits is rounded to an integer, as long as it stands for one. -/
theorem whole_roundWithAccuracy (sign : Sign) (places : Nat) {significand magnitude : Nat}
    {exponent : Int} (long : 2 ^ 52 ≤ significand) (exponentIs : exponent = places - 104)
    (scaled : significand * 2 ^ places = magnitude * 2 ^ 104) :
    Whole (roundWithAccuracy .binary64 sign significand exponent .exact)
      (sign.apply (nearest magnitude)) := by
  obtain ⟨least, greatest⟩ := halfEven_excess_bounds long
  generalize isRounded : halfEven significand (excess significand) = rounded at least greatest
  obtain ⟨final, isFinal, carried, finalLeast, finalGreatest⟩ := exists_of_carry least greatest
  rw [roundWithAccuracy_eq sign (by omega) isRounded isFinal (by omega)]
  have enough := le_places_of_scaled long scaled
  refine .finite (places + excess significand + excess rounded - 52) finalLeast finalGreatest
    (by omega) ?_
  -- Rounding commutes with the powers of two on both sides of `scaled`.
  apply Nat.eq_of_mul_eq_mul_right (Nat.two_pow_pos 52)
  calc final * 2 ^ (places + excess significand + excess rounded - 52) * 2 ^ 52
      = final * 2 ^ excess rounded * 2 ^ excess significand * 2 ^ places := by
        rw [Nat.mul_assoc, ← pow_add, Nat.mul_assoc, ← pow_add, Nat.mul_assoc, ← pow_add]
        congr 2
        omega
    _ = nearest significand * 2 ^ places := by rw [carried, ← isRounded, nearest]
    _ = nearest magnitude * 2 ^ 104 := by rw [← nearest_mul_two_pow, scaled, nearest_mul_two_pow]
    _ = nearest magnitude * 2 ^ 52 * 2 ^ 52 := by rw [Nat.mul_assoc, ← pow_add]

/-- Any significand is rounded to an integer, as long as it stands for one. -/
theorem whole_round (sign : Sign) (places : Nat) {significand magnitude : Nat} {exponent : Int}
    (pos : 0 < significand) (exponentIs : exponent = places - 52)
    (scaled : significand * 2 ^ places = magnitude * 2 ^ 52) :
    Whole (UnpackedFloat.round .binary64 sign significand exponent)
      (sign.apply (nearest magnitude)) := by
  let shift := 52 - significand.log2
  have target : (exponent - Format.targetExponent .binary64
      (totalExponent significand exponent)).toNat = shift := by
    simp only [Format.targetExponent, totalExponent, Format.mantissaBits, Format.minExponent, shift]
    omega
  have least := Nat.log2_self_le (Nat.pos_iff_ne_zero.1 pos)
  have long : 2 ^ 52 ≤ significand * 2 ^ shift := by
    calc 2 ^ 52 ≤ 2 ^ (significand.log2 + shift) := Nat.pow_le_pow_right (by decide) (by omega)
      _ = 2 ^ significand.log2 * 2 ^ shift := pow_add 2 _ _
      _ ≤ significand * 2 ^ shift := Nat.mul_le_mul_right _ least
  rw [UnpackedFloat.round, decreaseExponent, target, Nat.shiftLeft_eq]
  refine whole_roundWithAccuracy sign (places + 52 - shift) long (by omega) ?_
  calc significand * 2 ^ shift * 2 ^ (places + 52 - shift)
      = significand * 2 ^ places * 2 ^ 52 := by
        rw [Nat.mul_assoc, ← pow_add, Nat.mul_assoc, ← pow_add]
        congr 2
        omega
    _ = magnitude * 2 ^ 104 := by rw [scaled, Nat.mul_assoc, ← pow_add]

theorem whole_normalize (zeroSign : Sign) (places : Nat) {significand number exponent : Int}
    (exponentIs : exponent = places - 52)
    (scaled : significand * 2 ^ places = number * 2 ^ 52) :
    Whole (UnpackedFloat.normalize .binary64 significand exponent zeroSign)
      (nearestInt number) := by
  have magnitudes : significand.natAbs * 2 ^ places = number.natAbs * 2 ^ 52 := by
    have equal := congrArg Int.natAbs scaled
    rw [Int.natAbs_mul, Int.natAbs_mul, Int.natAbs_pow, Int.natAbs_pow] at equal
    exact equal
  have sameSign : significand.sign = number.sign := by
    have equal := congrArg Int.sign scaled
    have pow (exponent : Nat) : (2 ^ exponent : Int).sign = 1 :=
      Int.sign_eq_one_of_pos (by positivity)
    rwa [Int.sign_mul, Int.sign_mul, pow, pow, Int.mul_one, Int.mul_one] at equal
  rw [nearestInt, ← sameSign, UnpackedFloat.normalize]
  rcases Int.lt_trichotomy significand 0 with negative | rfl | positive
  · rw [Int.compare_eq_lt.2 negative, Int.sign_eq_neg_one_of_neg negative, Int.neg_one_mul]
    rw [show significand.natAbs = (-significand).toNat by omega] at magnitudes
    exact whole_round .negative places (by omega) exponentIs magnitudes
  · rw [Int.compare_eq_eq.2 rfl, Int.sign_zero, Int.zero_mul]
    exact .zero zeroSign
  · rw [Int.compare_eq_gt.2 positive, Int.sign_eq_one_of_pos positive, Int.one_mul]
    rw [show significand.natAbs = significand.toNat by omega] at magnitudes
    exact whole_round .positive places (by omega) exponentIs magnitudes

theorem nearestInt_apply (sign : Sign) (magnitude : Nat) :
    nearestInt (sign.apply magnitude) = sign.apply (nearest magnitude) := by
  cases sign with
  | positive => exact nearestInt_natCast magnitude
  | negative =>
      simp only [Sign.apply]
      rw [nearestInt_neg, nearestInt_natCast]

/-! ## Arithmetic on unpacked integers -/

theorem Sign.apply_mul (left right : Sign) (magnitude other : Nat) :
    left.apply magnitude * right.apply other = (left * right).apply (magnitude * other : Nat) := by
  cases left <;> cases right <;> simp [Sign.apply]

theorem Sign.neg_apply (sign : Sign) (magnitude : Int) :
    (-sign).apply magnitude = -sign.apply magnitude := by
  cases sign <;> simp [Sign.apply]

/-- A difference is the sum with the negative. -/
theorem unpacked_sub_eq_add_neg (format : Format) (left right : UnpackedFloat) :
    UnpackedFloat.sub format left right = UnpackedFloat.add format left right.neg := by
  cases left with
  | finite sign significand exponent =>
      cases right with
      | finite sign' =>
          simp only [UnpackedFloat.sub, UnpackedFloat.add, UnpackedFloat.neg, Sign.neg_apply,
            Int.sub_eq_add_neg]
      | _ => rfl
  | _ => cases right <;> rfl

namespace Whole

variable {left right : UnpackedFloat} {number other : Int}

theorem mul (whole : Whole left number) (otherWhole : Whole right other) :
    Whole (UnpackedFloat.mul .binary64 left right) (nearestInt (number * other)) := by
  cases whole with
  | zero sign =>
      rw [Int.zero_mul]
      cases otherWhole with
      | zero sign' => exact .zero _
      | finite => exact .zero _
  | @finite sign places significand magnitude exponent _ least greatest exponentIs scaled =>
      cases otherWhole with
      | zero sign' =>
          rw [Int.mul_zero]
          exact .zero _
      | @finite sign' places' significand' magnitude' exponent' _ least' _ exponentIs' scaled' =>
          rw [Sign.apply_mul, nearestInt_apply]
          refine whole_roundWithAccuracy _ (places + places') ?_ ?_ ?_
          · exact le_trans least (Nat.le_mul_of_pos_right _ (by omega))
          · push_cast
            omega
          · calc significand * significand' * 2 ^ (places + places')
                = significand * 2 ^ places * (significand' * 2 ^ places') := by ring
              _ = magnitude * magnitude' * 2 ^ 104 := by
                rw [scaled, scaled']
                ring

theorem nearestInt_eq (whole : Whole left number) : nearestInt number = number := by
  cases whole with
  | zero sign => rfl
  | finite places least greatest exponentIs scaled =>
      rw [nearestInt_apply, nearest_of_scaled greatest scaled]

theorem neg (whole : Whole left number) : Whole left.neg (-number) := by
  cases whole with
  | zero sign => exact .zero _
  | finite places least greatest exponentIs scaled =>
      rw [← Sign.neg_apply]
      exact .finite places least greatest exponentIs scaled

/-- A significand with its exponent lowered stands for the same integer. -/
theorem decreaseExponent_scaled {significand places magnitude lower : Nat} (sign : Sign)
    (lowered : lower ≤ places) (scaled : significand * 2 ^ places = magnitude * 2 ^ 52) :
    sign.apply (decreaseExponent significand (places - 52) (lower - 52)).1 * 2 ^ lower =
      sign.apply magnitude * 2 ^ 52 := by
  have shift : ((places - 52 : Int) - (lower - 52)).toNat = places - lower := by omega
  have raised : (significand * 2 ^ (places - lower) : Nat) * 2 ^ lower = magnitude * 2 ^ 52 := by
    rw [Nat.mul_assoc, ← pow_add, Nat.sub_add_cancel lowered, scaled]
  have raised' : ((significand * 2 ^ (places - lower) : Nat) : Int) * 2 ^ lower =
      magnitude * 2 ^ 52 := by exact_mod_cast raised
  rw [decreaseExponent, shift, Nat.shiftLeft_eq]
  cases sign with
  | positive => exact raised'
  | negative => simp only [Sign.apply, Int.neg_mul, raised']

theorem add (whole : Whole left number) (otherWhole : Whole right other) :
    Whole (UnpackedFloat.add .binary64 left right) (nearestInt (number + other)) := by
  have leftExact := whole.nearestInt_eq
  have rightExact := otherWhole.nearestInt_eq
  have leftWhole := whole
  have rightWhole := otherWhole
  cases whole with
  | zero sign =>
      cases otherWhole with
      | zero sign' =>
          simp only [UnpackedFloat.add]
          split <;> exact .zero _
      | finite =>
          rw [Int.zero_add, rightExact]
          exact rightWhole
  | @finite sign places significand magnitude exponent _ least greatest exponentIs scaled =>
      cases otherWhole with
      | zero sign' =>
          rw [Int.add_zero, leftExact]
          exact leftWhole
      | @finite sign' places' significand' magnitude' exponent' _ least' _ exponentIs' scaled' =>
          have smaller : min exponent exponent' = (min places places' : Nat) - 52 := by omega
          simp only [UnpackedFloat.add]
          rw [smaller, exponentIs, exponentIs']
          refine whole_normalize .positive _ rfl ?_
          rw [Int.add_mul, decreaseExponent_scaled sign (Nat.min_le_left _ _) scaled,
            decreaseExponent_scaled sign' (Nat.min_le_right _ _) scaled', Int.add_mul]

theorem sub (whole : Whole left number) (otherWhole : Whole right other) :
    Whole (UnpackedFloat.sub .binary64 left right) (nearestInt (number - other)) := by
  rw [unpacked_sub_eq_add_neg, Int.sub_eq_add_neg]
  exact whole.add otherWhole.neg

/-- An integer of moderate size is unpacked as it was packed. -/
theorem unpack_pack (whole : Whole left number) (bounded : number.natAbs ≤ 2 ^ 140) :
    Whole (Float.Model.pack left).unpack number := by
  cases whole with
  | zero sign =>
      rw [unpack_pack_zero]
      exact .zero sign
  | @finite sign places significand magnitude exponent _ least greatest exponentIs scaled =>
      have size : (sign.apply magnitude).natAbs = magnitude := by
        cases sign <;> simp [Sign.apply]
      rw [size] at bounded
      have few : 2 ^ places ≤ 2 ^ 140 := by
        apply Nat.le_of_mul_le_mul_left _ (Nat.two_pow_pos 52)
        calc 2 ^ 52 * 2 ^ places ≤ significand * 2 ^ places := Nat.mul_le_mul_right _ least
          _ = magnitude * 2 ^ 52 := scaled
          _ ≤ 2 ^ 140 * 2 ^ 52 := Nat.mul_le_mul_right _ bounded
          _ = 2 ^ 52 * 2 ^ 140 := Nat.mul_comm _ _
      have places_le := (Nat.pow_le_pow_iff_right (by decide)).1 few
      rw [unpack_pack_finite least greatest (by omega) (by omega)]
      exact .finite places least greatest exponentIs scaled

/-- An unpacked integer stands for itself. -/
theorem toRat_ofUnpacked? (whole : Whole left number) :
    (Dyadic.ofUnpacked? left).map Dyadic.toRat = some (number : ℚ) := by
  cases whole with
  | zero sign => simp [Dyadic.ofUnpacked?, Dyadic.toRat, Dyadic.signed]
  | @finite sign places significand magnitude exponent _ least greatest exponentIs scaled =>
      have scaledRat : (significand : ℚ) * 2 ^ places = magnitude * 2 ^ 52 := by
        exact_mod_cast scaled
      have value : (significand : ℚ) * 2 ^ exponent = magnitude := by
        rw [exponentIs, zpow_sub₀ (by norm_num), zpow_natCast, ← mul_div_assoc, scaledRat]
        norm_num
      cases sign <;>
        simp [Dyadic.ofUnpacked?, Dyadic.toRat, Dyadic.signed, Sign.apply, isNegative, value]

end Whole

/-! ## Doubles -/

/-- An integer is one of 64 bits. -/
def IsInt64 (number : Int) : Prop := -0x8000000000000000 ≤ number ∧ number < 0x8000000000000000

instance (number : Int) : Decidable (IsInt64 number) := inferInstanceAs (Decidable (_ ∧ _))

theorem isInt64_toInt (number : Int64) : IsInt64 number.toInt := ⟨number.le_toInt, number.toInt_lt⟩

/-- A double that is an integer. -/
def IsWhole (number : Float) (whole : Int) : Prop := Whole number.toModel.unpack whole

namespace IsWhole

variable {left right : Float} {number other : Int}

theorem rational?_eq (isWhole : IsWhole left number) : rational? left = some (number : ℚ) := by
  rw [rational?, Dyadic.ofFloat?_eq_ofUnpacked?]
  exact Whole.toRat_ofUnpacked? isWhole

/-- An integral double fits 64 bits exactly when the integer does. -/
theorem fitsInt64_iff (isWhole : IsWhole left number) : FitsInt64 left ↔ IsInt64 number := by
  constructor
  · rintro ⟨whole, stands, inRange⟩
    have same := isWhole.rational?_eq.symm.trans stands
    have same : number = whole := by exact_mod_cast Option.some.inj same
    rwa [same]
  · intro inRange
    exact ⟨number, isWhole.rational?_eq, inRange⟩

/-- As a value, an integral double is the integer if that fits 64 bits, and else itself. -/
theorem value_number (isWhole : IsWhole left number) :
    (∃ whole, Value.number left = .integer whole ∧ whole.toInt = number) ∨
      ¬ IsInt64 number ∧ Value.number left = .float left := by
  unfold Value.number
  cases read : int64OfFloat? left with
  | some whole =>
      have stands := int64OfFloat?_eq_some_iff.1 read
      have same := isWhole.rational?_eq.symm.trans stands
      exact .inl ⟨whole, rfl, by exact_mod_cast (Option.some.inj same).symm⟩
  | none =>
      have outside := int64OfFloat?_eq_none_iff.1 read
      rw [isWhole.fitsInt64_iff] at outside
      exact .inr ⟨outside, rfl⟩

theorem add (isWhole : IsWhole left number) (otherWhole : IsWhole right other)
    (bounded : (number + other).natAbs ≤ 2 ^ 130) :
    IsWhole (left + right) (nearestInt (number + other)) := by
  have size := natAbs_nearestInt_le (number + other)
  exact (Whole.add isWhole otherWhole).unpack_pack (by omega)

theorem sub (isWhole : IsWhole left number) (otherWhole : IsWhole right other)
    (bounded : (number - other).natAbs ≤ 2 ^ 130) :
    IsWhole (left - right) (nearestInt (number - other)) := by
  have size := natAbs_nearestInt_le (number - other)
  exact (Whole.sub isWhole otherWhole).unpack_pack (by omega)

theorem mul (isWhole : IsWhole left number) (otherWhole : IsWhole right other)
    (bounded : (number * other).natAbs ≤ 2 ^ 130) :
    IsWhole (left * right) (nearestInt (number * other)) := by
  have size := natAbs_nearestInt_le (number * other)
  exact (Whole.mul isWhole otherWhole).unpack_pack (by omega)

theorem neg (isWhole : IsWhole left number) (bounded : number.natAbs ≤ 2 ^ 130) :
    IsWhole (-left) (-number) :=
  (Whole.neg isWhole).unpack_pack (by omega)

theorem ofBits_one : IsWhole (Float.ofBits 0x3FF0000000000000) 1 := by
  have unpacked : (Float.ofBits 0x3FF0000000000000).toModel.unpack =
      .finite .positive (2 ^ 52) (-52) (by decide) := rfl
  rw [IsWhole, unpacked]
  exact @Whole.finite .positive 0 _ 1 _ _ (by decide) (by decide) (by decide) (by decide)

/-- Small numbers are converted and then multiplied by one, which is the power of ten that belongs
to an exponent of zero. -/
theorem ofNat_of_lt {number : Nat} (small : number < 2 ^ 53) :
    IsWhole (Float.ofNat number) (nearest number) := by
  have product : Float.ofNat number =
      number.toUInt64.toFloat * Float.ofBits 0x3FF0000000000000 :=
    dif_pos ⟨small, by decide⟩
  have toNat : number.toUInt64.toNat = number := by
    rw [Nat.toUInt64_eq, UInt64.toNat_ofNat']
    omega
  have packed : number.toUInt64.toFloat =
      .ofModel (.pack (UnpackedFloat.normalize .binary64 number.toUInt64.toNat 0 .positive)) := rfl
  have normalized : Whole (UnpackedFloat.normalize .binary64 number 0 .positive)
      (nearestInt number) := whole_normalize .positive 52 (by decide) rfl
  rw [nearestInt_natCast, nearest_of_lt small] at normalized
  have converted : IsWhole number.toUInt64.toFloat number := by
    rw [packed, toNat]
    exact normalized.unpack_pack (by omega)
  have multiplied := converted.mul ofBits_one (by omega)
  rwa [← product, Int.mul_one, nearestInt_natCast] at multiplied

/-- Large numbers are rounded. -/
theorem ofNat_of_le {number : Nat} (large : 2 ^ 53 ≤ number) (bounded : number ≤ 2 ^ 64) :
    IsWhole (Float.ofNat number) (nearest number) := by
  have model : Float.ofNat number = .ofModel (Float.Model.ofScientific number 0) :=
    dif_neg (by omega)
  have unpacked : UnpackedFloat.ofScientific .binary64 number 0 =
      roundWithAccuracy .binary64 .positive (number * 2 ^ 53) (-53) .exact := by
    have powers : (0 : Int) ≤ 2 ^ Format.exponentBits .binary64 := by decide
    rw [UnpackedFloat.ofScientific, dif_neg (by omega), if_neg (by omega), if_neg (by omega),
      if_pos (by decide), ← Nat.shiftLeft_eq, ← Nat.mul_one (number <<< 53)]
    rfl
  have rounded : Whole (UnpackedFloat.ofScientific .binary64 number 0) (nearest number) := by
    rw [unpacked]
    refine whole_roundWithAccuracy .positive 51 (by omega) (by decide) ?_
    rw [Nat.mul_assoc, ← pow_add]
  have size := nearest_le number
  rw [model]
  exact rounded.unpack_pack (by omega)

/-- An integer is converted to the integer with 53 significant bits that is nearest to it. -/
theorem ofInt {number : Int} (bounded : number.natAbs ≤ 2 ^ 64) :
    IsWhole (Float.ofInt number) (nearestInt number) := by
  have ofNat {number : Nat} (bounded : number ≤ 2 ^ 64) :
      IsWhole (Float.ofNat number) (nearest number) := by
    rcases Nat.lt_or_ge number (2 ^ 53) with small | large
    · exact ofNat_of_lt small
    · exact ofNat_of_le large bounded
  cases number with
  | ofNat number =>
      have converted := ofNat bounded
      rwa [← nearestInt_natCast] at converted
  | negSucc number =>
      have size := nearest_le (number + 1)
      have negated : nearestInt (.negSucc number) = -(nearest (number + 1) : Nat) := by
        rw [← nearestInt_natCast, ← nearestInt_neg]
        rfl
      rw [negated]
      have converted : IsWhole (Float.ofNat (number + 1)) (nearest (number + 1)) := ofNat bounded
      exact converted.neg (by omega)

end IsWhole

end SyntaxFold
