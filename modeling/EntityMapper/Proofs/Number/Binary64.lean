import EntityMapper.Number.Binary64
import Mathlib

set_option autoImplicit false

/-! Integers that are not too large have a finite floating-point number. -/

namespace EntityMapper.Binary64

open Float.Model

/-- Bits whose exponent is not the greatest one are kept. -/
theorem toBits_ofBits {bits : UInt64} (regular : bits.toNat / hiddenBit % 2048 ≠ 2047) :
    (Float.ofBits bits).toBits = bits := by
  have number : @UnpackedFloat.isNaNBits Format.binary64 bits.toBitVec = false := by
    rw [UnpackedFloat.isNaNBits, decide_eq_false_iff_not]
    rintro ⟨greatest, -⟩
    have value := congrArg BitVec.toNat greatest
    rw [UnpackedFloat.unpackExponent_def, BitVec.extractLsb'_toNat, Nat.shiftRight_eq_div_pow]
      at value
    exact regular value
  have packed := @UnpackedFloat.pack_unpack Format.binary64 bits.toBitVec (by decide)
  rw [number, if_neg Bool.false_ne_true] at packed
  exact congrArg UInt64.ofBitVec packed

theorem isFinite_ofBits {bits : UInt64} (regular : bits.toNat / hiddenBit % 2048 ≠ 2047) :
    isFinite (Float.ofBits bits) = true := by
  rw [isFinite, content, toBits_ofBits regular, contentOfBits]
  simp only [regular, if_false]
  split <;> rfl

theorem floorLog_one {n : Nat} (positive : n ≠ 0) : floorLog n 1 = n.log2 := by
  have least : 2 ^ n.log2 ≤ n := Nat.log2_self_le positive
  have one : Nat.log2 1 = 0 := rfl
  simp [floorLog, twoTo, one, least]

theorem divideToEven_le (numerator denominator : Nat) :
    divideToEven numerator denominator ≤ numerator / denominator + 1 := by
  rw [divideToEven]
  grind

/-- An integer has at most 53 bits where its last bit counts as much as that of its number. -/
theorem scaled_lt (n : Nat) : n * twoTo (52 - n.log2) < 2 ^ 53 * twoTo (n.log2 - 52) := by
  have places : n.log2 + 1 + (52 - n.log2) = 53 + (n.log2 - 52) := by omega
  calc
    n * 2 ^ (52 - n.log2) < 2 ^ (n.log2 + 1) * 2 ^ (52 - n.log2) :=
      Nat.mul_lt_mul_of_pos_right Nat.lt_log2_self (twoTo_pos _)
    _ = 2 ^ 53 * 2 ^ (n.log2 - 52) := by rw [← Nat.pow_add, places, Nat.pow_add]

/-- The bits of an integer hold one of the exponents of finite numbers. -/
theorem exponent_bitsOfRatio (negative : Bool) {n : Nat} (small : n.log2 < 1023) :
    bitsOfRatio negative n 1 < 18446744073709551616 ∧
      bitsOfRatio negative n 1 / hiddenBit % 2048 ≠ 2047 := by
  have signs : ∀ bits : Nat, bits < 2047 * hiddenBit →
      (if negative then 9223372036854775808 else 0) + bits < 18446744073709551616 ∧
        ((if negative then 9223372036854775808 else 0) + bits) / hiddenBit % 2048 ≠ 2047 := by
    intro bits bound
    rw [hiddenBit] at bound ⊢
    cases negative <;> simp only [Bool.false_eq_true, if_true, if_false] <;> omega
  by_cases zero : n = 0
  · rw [bitsOfRatio, if_pos zero]
    exact signs 0 (by decide)
  · have exponent : max (floorLog n 1 - 52) leastExponent = n.log2 - 52 := by
      rw [floorLog_one zero, leastExponent]
      omega
    have significand : divideToEven (n * twoTo (52 - n.log2)) (1 * twoTo (n.log2 - 52)) ≤
        2 ^ 53 := by
      have quotient := (Nat.div_lt_iff_lt_mul (twoTo_pos (n.log2 - 52))).2 (scaled_lt n)
      rw [one_mul]
      exact (divideToEven_le _ _).trans quotient
    have below : (-((n.log2 : Int) - 52)).toNat = 52 - n.log2 := by omega
    have above : ((n.log2 : Int) - 52).toNat = n.log2 - 52 := by omega
    have biased : ((n.log2 : Int) - 52 - leastExponent).toNat = n.log2 + 1022 := by
      rw [leastExponent]
      omega
    rw [bitsOfRatio, if_neg zero, exponent]
    simp only [below, above, biased]
    apply signs
    generalize divideToEven _ _ = rounded at significand ⊢
    rw [hiddenBit]
    omega

/-- Integers below the greatest power of two are finite. -/
theorem isFinite_ofInt {value : Int} (small : value.natAbs.log2 < 1023) :
    isFinite (ofInt value) = true := by
  obtain ⟨bound, regular⟩ := exponent_bitsOfRatio (value < 0) small
  apply isFinite_ofBits
  rwa [UInt64.toNat_ofNat', Nat.mod_eq_of_lt bound]

end EntityMapper.Binary64
