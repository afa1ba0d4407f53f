import Mathlib
import SyntaxFold.Proofs.Decimal.Dyadic

/-!
# Unpacked doubles

The arithmetic of doubles is defined on their unpacked form, which has a sign, a significand and an
exponent. This module says how that form lies in the bits: reading the bits of a double gives what
unpacking gives, and a double of moderate size is unpacked as it was packed.
-/

namespace SyntaxFold

open Float.Model Float.Model.UnpackedFloat

/-- Whether a sign is the minus. -/
def isNegative : Sign → Bool
  | .negative => true
  | .positive => false

/-! ## The parts of the bits -/

theorem toNat_unpackMantissa (bits : BitVec 64) :
    (@unpackMantissa .binary64 bits).toNat = bits.toNat % 2 ^ 52 := by
  simp [unpackMantissa, BitVec.extractLsb_toNat]

theorem toNat_unpackExponent (bits : BitVec 64) :
    (@unpackExponent .binary64 bits).toNat = bits.toNat / 2 ^ 52 % 2 ^ 11 := by
  simp [unpackExponent, BitVec.extractLsb_toNat, Nat.shiftRight_eq_div_pow]

theorem toNat_unpackSign (bits : BitVec 64) :
    (@unpackSign .binary64 bits).toNat = bits.toNat / 2 ^ 63 := by
  have small := bits.isLt
  simp [unpackSign, BitVec.extractLsb_toNat, Nat.shiftRight_eq_div_pow]
  omega

theorem toNat_implicitBit (fraction : BitVec 52) :
    (1#1 ++ fraction).toNat = 2 ^ 52 + fraction.toNat := by
  rw [BitVec.toNat_append, ← Nat.shiftLeft_add_eq_or_of_lt fraction.isLt]
  rfl

theorem isNegative_unpackSign (bits : BitVec 64) :
    isNegative (Sign.ofBitVec (@unpackSign .binary64 bits)) = decide (2 ^ 63 ≤ bits.toNat) := by
  have sign := toNat_unpackSign bits
  have small := bits.isLt
  by_cases negative : 2 ^ 63 ≤ bits.toNat
  · have one : @unpackSign .binary64 bits ≠ 0#1 := by
      intro zero
      rw [zero] at sign
      simp at sign
      omega
    rw [Sign.ofBitVec, if_neg one, decide_eq_true negative]
    rfl
  · have zero : @unpackSign .binary64 bits = 0#1 := by
      apply BitVec.eq_of_toNat_eq
      rw [sign]
      simp
      omega
    rw [Sign.ofBitVec, if_pos zero, decide_eq_false negative]
    rfl

/-! ## Reading the bits -/

namespace Dyadic

/-- The number that an unpacked double stands for. -/
def ofUnpacked? : UnpackedFloat → Option Dyadic
  | .finite sign significand exponent _ => some ⟨isNegative sign, significand, exponent⟩
  | .zero sign => some ⟨isNegative sign, 0, -1074⟩
  | _ => none

/-- The bits of a double are read in the same way as they are unpacked. -/
theorem ofFloat?_eq_ofUnpacked? (number : Float) :
    ofFloat? number = ofUnpacked? number.toModel.unpack := by
  let bits : BitVec 64 := number.toModel.toBits.toBitVec
  have exponent : (@unpackExponent .binary64 bits).toNat =
      bits.toNat / hiddenBit % 2048 := toNat_unpackExponent bits
  have fraction : (@unpackMantissa .binary64 bits).toNat = bits.toNat % hiddenBit :=
    toNat_unpackMantissa bits
  have negative := isNegative_unpackSign bits
  have bias : Format.exponentBias .binary64 = 1023 := rfl
  have largest : (-1#11).toNat = 2047 := rfl
  have bitsOf : number.toBits.toNat = bits.toNat := rfl
  have unpacked : number.toModel.unpack = UnpackedFloat.unpack .binary64 bits := rfl
  rw [unpacked, ofFloat?, bitsOf, UnpackedFloat.unpack]
  simp only [← BitVec.toNat_inj, exponent, fraction, largest, BitVec.toNat_zero, bias]
  generalize bits.toNat / hiddenBit % 2048 = biased at exponent
  by_cases special : biased = 2047
  · by_cases zero : bits.toNat % hiddenBit = 0 <;> simp [special, zero, ofUnpacked?]
  · by_cases subnormal : biased = 0
    · by_cases zero : bits.toNat % hiddenBit = 0 <;> simp [subnormal, zero, negative, ofUnpacked?]
    · simp only [special, subnormal, negative, toNat_implicitBit, fraction, if_false, ofUnpacked?]
      rfl

end Dyadic

/-! ## Packing -/

theorem unpack_pack_zero (sign : Sign) :
    (Float.Model.pack (.zero sign)).unpack = .zero sign :=
  unpack_packedZero

/-- A normal double of moderate size is unpacked as it was packed. -/
theorem unpack_pack_finite {sign : Sign} {significand : Nat} {exponent : Int}
    {pos : 0 < significand} (least : 2 ^ 52 ≤ significand) (greatest : significand < 2 ^ 53)
    (low : -1000 ≤ exponent) (high : exponent ≤ 900) :
    (Float.Model.pack (.finite sign significand exponent pos)).unpack =
      .finite sign significand exponent pos := by
  have length : significand.log2 + 1 = Format.mantissaBits .binary64 := by
    rw [(Nat.log2_eq_iff (k := 52) (by omega)).2 ⟨least, greatest⟩]
    rfl
  have bias : Format.exponentBias .binary64 = 1023 := rfl
  let biased := (exponent + 1023 + 52).toNat
  have inRange : ¬ 2 ^ 11 ≤ biased + 1 := by omega
  have packed : UnpackedFloat.pack .binary64 (.finite sign significand exponent pos) =
      packComponents .binary64 sign (BitVec.ofNat 11 biased) (BitVec.ofNat 52 significand) := by
    simp only [UnpackedFloat.pack, bias, length, if_true]
    exact if_neg inRange
  have toNat : (BitVec.ofNat 11 biased).toNat = biased := by
    rw [BitVec.toNat_ofNat, Nat.mod_eq_of_lt (by omega)]
  have largest : (-1#11).toNat = 2047 := rfl
  have implicit : (1#1 ++ BitVec.ofNat 52 significand).toNat = significand := by
    rw [toNat_implicitBit, BitVec.toNat_ofNat]
    omega
  have unpacked : (Float.Model.pack (.finite sign significand exponent pos)).unpack =
      UnpackedFloat.unpack .binary64
        (packComponents .binary64 sign (BitVec.ofNat 11 biased) (BitVec.ofNat 52 significand)) := by
    rw [← packed]
    rfl
  rw [unpacked, UnpackedFloat.unpack]
  simp only [unpackMantissa_packComponents, unpackExponent_packComponents,
    unpackSign_packComponents, Sign.ofBitVec_toBitVec, ← BitVec.toNat_inj, toNat, implicit, largest,
    bias, BitVec.toNat_zero]
  rw [if_neg (by omega), if_neg (by omega)]
  congr 1
  omega

end SyntaxFold
