import Reckoner.Proofs.Grammar.Derivation
import Reckoner.Proofs.Number.Finite
import Reckoner.Proofs.Number.Numeral

/-! # Literals

A literal has no sign, so the number that it is read as is finite or positively infinite. The
infinite one is printed as a name, and no finite number is.
-/
namespace Reckoner
open Float.Model (UnpackedFloat)
open Float.Model.UnpackedFloat (unpackExponent)

theorem Binary64.nearestBits_le (num den : Nat) : nearestBits num den ≤ infinityBits := by
  unfold nearestBits
  split
  · exact Nat.zero_le _
  · exact Nat.min_le_right _ _

theorem Decimal.Numeral.toFloat_cases {n : Numeral} (h : n.negative = false) :
    n.toFloat = Binary64.infinity ∨ n.toFloat.isFinite = true := by
  have hbits : ∃ bits ≤ Binary64.infinityBits, n.toFloat = Binary64.ofBits false bits := by
    unfold toFloat
    rw [h]
    refine ⟨_, ?_, rfl⟩
    split
    · exact Nat.zero_le _
    · split
      · exact Nat.le_refl _
      · split
        · exact Nat.zero_le _
        · split
          · exact Binary64.nearestBits_le _ _
          · exact Binary64.nearestBits_le _ _
  obtain ⟨bits, hle, he⟩ := hbits
  rw [he]
  rcases Nat.lt_or_eq_of_le hle with hlt | rfl
  · exact .inr (Binary64.isFinite_ofBits hlt)
  · exact .inl rfl

theorem Derivation.numberOf_cases {t : Token} (h : Token.Spells t.kind t.text)
    (ht : t.kind = .number) :
    numberOf t = Binary64.infinity ∨ (numberOf t).isFinite = true := by
  rw [ht] at h
  obtain ⟨n, hn, hr⟩ := Decimal.readLoose?_eq_of_numeral h
  rw [numberOf, hr, Option.getD_some]
  exact n.toFloat_cases hn

theorem Written.number_infinity : Written.number Binary64.infinity = "inf".toList := by
  decide

theorem Binary64.isInf_infinity : Binary64.infinity.isInf = true := by
  decide

theorem Binary64.isInf_of_isFinite {x : Float} (h : x.isFinite = true) : x.isInf = false := by
  change x.toModel.unpack.isInf = false
  change x.toModel.unpack.isFinite = true at h
  cases hu : x.toModel.unpack <;> rw [hu] at h <;> first | rfl | cases h

namespace Binary64

theorem isNaN_of_isFinite {x : Float} (h : x.isFinite = true) : x.isNaN = false := by
  change x.toModel.unpack.isNaN = false
  change x.toModel.unpack.isFinite = true at h
  cases hu : x.toModel.unpack <;> rw [hu] at h <;> first | rfl | cases h

theorem exponent_of_isFinite {x : Float} (h : x.isFinite = true) : biasedExponent x ≠ 2047 := by
  intro hb
  have he : @unpackExponent .binary64 x.toBits.toBitVec = -1#11 := by
    apply allOnes_iff.mpr
    simp only [unpackExponent, BitVec.toNat_cast, BitVec.extractLsb_toNat]
    rw [Nat.shiftRight_eq_div_pow]
    exact hb
  change (UnpackedFloat.unpack .binary64 x.toBits.toBitVec).isFinite = true at h
  unfold UnpackedFloat.unpack at h
  dsimp only at h
  rw [if_pos he] at h
  split at h <;> cases h

end Binary64

namespace Written

theorem exists_mark_positional (digits : Text) (point : Int) :
    ∃ c ∈ positional digits point, Text.isNamePart c = false := by
  refine ⟨'.', ?_, rfl⟩
  unfold positional
  split
  · simp
  · split <;> simp

theorem exists_mark_exponential (digits : Text) (point : Int) :
    ∃ c ∈ exponential digits point, Text.isNamePart c = false := by
  refine ⟨if point - 1 < 0 then '-' else '+', ?_, ?_⟩
  · simp [exponential]
  · split <;> rfl

/-- A finite number is written with a point or with the sign of an exponent. -/
theorem exists_mark {x : Float} (h : x.isFinite = true) :
    ∃ c ∈ number x, Text.isNamePart c = false := by
  have hf (digits : Nat) (exponent : Int) :
      ∃ c ∈ finite digits exponent, Text.isNamePart c = false := by
    unfold finite
    dsimp only
    split
    · exact exists_mark_positional _ _
    · exact exists_mark_exponential _ _
  have hm : ∃ c ∈ (if Binary64.mantissa x = 0 then "0.0".toList
      else finite (Shortest.digits x).1 (Shortest.digits x).2), Text.isNamePart c = false := by
    split
    · exact ⟨'.', by decide, rfl⟩
    · exact hf _ _
  obtain ⟨c, hc, hn⟩ := hm
  refine ⟨c, ?_, hn⟩
  unfold number
  rw [Binary64.isNaN_of_isFinite h, if_neg Bool.false_ne_true]
  dsimp only
  rw [if_neg (Binary64.exponent_of_isFinite h)]
  split
  · exact List.mem_cons_of_mem _ hc
  · exact hc

/-- Only infinite numbers, and those that are none, are printed as names. -/
theorem isName_number {x : Float} (h : x.isFinite = true) : Text.isName (number x) = false := by
  obtain ⟨c, hc, hn⟩ := exists_mark h
  apply Bool.eq_false_of_not_eq_true
  intro hname
  rw [Text.isNamePart_of_isName hname c hc] at hn
  cases hn

end Written
end Reckoner
