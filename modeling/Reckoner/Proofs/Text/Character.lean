import Reckoner.Text.Blank

/-! # Classes of characters by number

Digits, letters and layout as ranges of code points, so that facts about characters become
arithmetic.
-/
namespace Reckoner

/-- What is checked of each character of a text holds of them all. -/
theorem Text.forall_of_all {property : Char → Prop} [DecidablePred property] {w : Text}
    (h : (w.all fun c => decide (property c)) = true) : ∀ c ∈ w, property c :=
  fun c hc => of_decide_eq_true (List.all_eq_true.mp h c hc)

theorem Text.isDigit_iff (c : Char) : Text.isDigit c = true ↔ 48 ≤ c.toNat ∧ c.toNat ≤ 57 := by
  have h : Text.isDigit c = true ↔ '0' ≤ c ∧ c ≤ '9' := by
    unfold Text.isDigit Text.digit?
    split <;> simp_all
  rw [h, Char.le_def, Char.le_def, UInt32.le_iff_toNat_le, UInt32.le_iff_toNat_le]
  rfl

theorem Text.isNameStart_iff (c : Char) : Text.isNameStart c = true ↔
    (97 ≤ c.toNat ∧ c.toNat ≤ 122) ∨ (65 ≤ c.toNat ∧ c.toNat ≤ 90) ∨ c.toNat = 95 := by
  have h : c = '_' ↔ c.toNat = 95 := by
    rw [← Char.toNat_inj]
    rfl
  simp only [Text.isNameStart, Bool.or_eq_true, Bool.and_eq_true, decide_eq_true_eq, beq_iff_eq,
    Char.le_def, UInt32.le_iff_toNat_le, h, or_assoc]
  rfl

theorem Text.isDigit_eq_false_of_isNameStart {c : Char} (h : Text.isNameStart c = true) :
    Text.isDigit c = false := by
  have hs := (Text.isNameStart_iff c).mp h
  cases hd : Text.isDigit c with
  | false => rfl
  | true =>
    have hn := (Text.isDigit_iff c).mp hd
    omega

theorem Text.isDigit_ofNat (n : Nat) : ∀ c ∈ Text.ofNat n, Text.isDigit c = true := fun c hc =>
  (Text.isDigit_iff c).mpr (Char.isDigit_iff_toNat.mp
    (Nat.isDigit_of_mem_toDigits (by decide) (by decide) hc))

theorem Text.plain_ofNat (n : Nat) : ∀ c ∈ Text.ofNat n, c ≠ '\n' := by
  rintro c hc rfl
  exact absurd (Text.isDigit_ofNat n _ hc) (by decide)

theorem Blank.isLayout_iff (c : Char) :
    Blank.isLayout c = true ↔ c = ' ' ∨ c = '\t' ∨ c = '\x0c' ∨ c = '\r' ∨ c = '\n' := by
  simp [Blank.isLayout, or_assoc]

theorem Blank.isLayout_eq_false_of_isDigit {c : Char} (h : Text.isDigit c = true) :
    Blank.isLayout c = false := by
  cases hl : Blank.isLayout c with
  | false => rfl
  | true =>
    rcases (Blank.isLayout_iff c).mp hl with rfl | rfl | rfl | rfl | rfl <;>
      exact absurd h (by decide)

theorem Blank.isLayout_eq_false_of_isNameStart {c : Char} (h : Text.isNameStart c = true) :
    Blank.isLayout c = false := by
  cases hl : Blank.isLayout c with
  | false => rfl
  | true =>
    rcases (Blank.isLayout_iff c).mp hl with rfl | rfl | rfl | rfl | rfl <;>
      exact absurd h (by decide)

end Reckoner
