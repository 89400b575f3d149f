import Mathlib.Data.BitVec
import Reckoner.Number.Binary64

/-! # Finite bit patterns

A bit pattern whose exponent is not all ones stands for a finite double. The type of doubles keeps
its numbers in packed form, and packing what was unpacked keeps the exponent from becoming all ones.
-/
namespace Reckoner.Binary64
open Float.Model (Format UnpackedFloat)
open Float.Model.UnpackedFloat (pack unpackExponent unpackMantissa unpackExponent_packComponents)

abbrev Pattern := BitVec Format.binary64.numBits

theorem allOnes_iff {v : BitVec 11} : v = -1#11 ↔ v.toNat = 2047 := by
  rw [← BitVec.toNat_inj]
  rfl

theorem exponent_pack_finite (s : UnpackedFloat.Sign) (m : Nat) {e : Int} (hm : 0 < m)
    (he : e ≤ 971) : unpackExponent (pack .binary64 (.finite s m e hm)) ≠ -1#11 := by
  have hbias : ((Format.binary64.exponentBias : Nat) : Int) = 1023 := rfl
  have hb : (e + Format.binary64.exponentBias + (52 : Nat)).toNat ≤ 2046 := by omega
  unfold pack
  dsimp only
  rw [if_neg (by omega)]
  split
  · rw [unpackExponent_packComponents]
    intro h
    have hn := allOnes_iff.mp h
    rw [BitVec.toNat_ofNat, Nat.mod_eq_of_lt (by omega)] at hn
    omega
  · rw [unpackExponent_packComponents]
    decide

/-- The exponent of an unpacked finite number fits again. -/
theorem exponent_pack_unpack {b : Pattern} (h : unpackExponent b ≠ -1#11) :
    unpackExponent (pack .binary64 (UnpackedFloat.unpack .binary64 b)) ≠ -1#11 := by
  have hlt : (unpackExponent b).toNat < 2048 := (unpackExponent b).isLt
  have hne := mt allOnes_iff.mpr h
  have hbias : ((Format.binary64.exponentBias : Nat) : Int) = 1023 := rfl
  unfold UnpackedFloat.unpack
  dsimp only
  rw [if_neg h]
  by_cases hz : unpackExponent b = 0#11
  · rw [if_pos hz]
    by_cases hm : unpackMantissa b = 0#52
    · rw [dif_pos hm]
      unfold pack UnpackedFloat.packedZero
      rw [unpackExponent_packComponents]
      decide
    · rw [dif_neg hm]
      refine exponent_pack_finite _ _ _ ?_
      rw [hz, hbias]
      decide
  · rw [if_neg hz]
    refine exponent_pack_finite _ _ _ ?_
    rw [hbias]
    omega

theorem isFinite_unpack {b : Pattern} (h : unpackExponent b ≠ -1#11) :
    (UnpackedFloat.unpack .binary64 b).isFinite = true := by
  unfold UnpackedFloat.unpack
  dsimp only
  rw [if_neg h]
  by_cases hz : unpackExponent b = 0#11
  · rw [if_pos hz]
    by_cases hm : unpackMantissa b = 0#52
    · rw [dif_pos hm]
      rfl
    · rw [dif_neg hm]
      rfl
  · rw [if_neg hz]
    rfl

def pattern (bits : Nat) : Pattern := (UInt64.ofNat bits).toBitVec

theorem exponent_pattern {bits : Nat} (h : bits < infinityBits) :
    unpackExponent (pattern bits) ≠ -1#11 := by
  have hb : infinityBits = 2047 * 2 ^ 52 := by decide
  intro he
  have hn := allOnes_iff.mp he
  simp only [unpackExponent, BitVec.toNat_cast, BitVec.extractLsb_toNat] at hn
  have ht : (pattern bits).toNat = bits := by
    simp only [pattern, UInt64.toBitVec_ofNat']
    exact Nat.mod_eq_of_lt (by omega)
  rw [ht, Nat.shiftRight_eq_div_pow] at hn
  omega

theorem isFinite_ofBits {bits : Nat} (h : bits < infinityBits) :
    (ofBits false bits).isFinite = true :=
  isFinite_unpack (exponent_pack_unpack (exponent_pattern h))

end Reckoner.Binary64
