import Reckoner.Proofs.Number.Numeral
import Reckoner.Proofs.Token.Margins

/-! # Names that are numbers

The reader of bound values takes three words as numbers, in capitals or not. No other name is read
as a number: a name has letters where a numeral has digits, and an underscore is only dropped
between digits.
-/
namespace Reckoner.Decimal

/-- The words that are read as numbers. -/
def IsWord (w : Text) : Prop :=
  Text.lower w = "inf".toList ∨ Text.lower w = "infinity".toList ∨ Text.lower w = "nan".toList

theorem readNamed?_iff {w : Text} : (∃ x, readNamed? false w = some x) ↔ IsWord w := by
  unfold readNamed? IsWord
  constructor
  · rintro ⟨x, h⟩
    dsimp only at h
    split at h
    · next hw => exact hw.elim .inl fun hw => .inr (.inl hw)
    · split at h
      · next hw => exact .inr (.inr hw)
      · cases h
  · intro h
    by_cases hi : Text.lower w = "inf".toList ∨ Text.lower w = "infinity".toList
    · exact ⟨_, if_pos hi⟩
    · have hn : Text.lower w = "nan".toList := by
        rcases h with h | h | h
        · exact absurd (.inl h) hi
        · exact absurd (.inr h) hi
        · exact h
      exact ⟨_, (if_neg hi).trans (if_pos hn)⟩

theorem toLower_eq_self {c : Char} (h : c.toNat < 65 ∨ 90 < c.toNat) : c.toLower = c := by
  unfold Char.toLower
  rw [dif_neg]
  rintro ⟨hl, hu⟩
  have hl : 65 ≤ c.toNat := UInt32.le_iff_toNat_le.mp hl
  have hu : c.toNat ≤ 90 := UInt32.le_iff_toNat_le.mp hu
  omega

theorem IsWord.letters {w : Text} (hw : IsWord w) :
    ∀ c ∈ w, Text.isDigit c = false ∧ c ≠ '_' := by
  have hlower : ∀ c ∈ Text.lower w, Text.isDigit c = false ∧ c ≠ '_' := by
    rcases hw with h | h | h
    all_goals
      rw [h]
      exact Text.forall_of_all (by decide)
  intro c hc
  have hmem : c.toLower ∈ Text.lower w := List.mem_map_of_mem hc
  constructor
  · by_contra hd
    have hd := (Text.isDigit_iff c).mp ((Bool.not_eq_false _).mp hd)
    rw [toLower_eq_self (by omega)] at hmem
    exact absurd ((Text.isDigit_iff c).mpr hd) (by rw [(hlower c hmem).1]; exact Bool.false_ne_true)
  · rintro rfl
    exact (hlower '_' hmem).2 rfl

theorem eq_of_dropUnderscores? {before : Bool} {w v : Text}
    (h : dropUnderscores? before w = some v) (hv : ∀ c ∈ v, Text.isDigit c = false) : v = w := by
  induction w generalizing before v with
  | nil => exact (Option.some.inj h).symm
  | cons c rest ih =>
    rw [dropUnderscores?] at h
    split at h
    · next hc =>
      split at h
      · next hb =>
        cases rest with
        | nil => simp at hb
        | cons d more =>
          have hd : Text.isDigit d = true := by simpa using (Bool.and_eq_true_iff.mp hb).2
          have hne : d ≠ '_' := by
            rintro rfl
            exact absurd hd (by decide)
          rw [dropUnderscores?, if_neg hne] at h
          obtain ⟨u, -, rfl⟩ := Option.map_eq_some_iff.mp h
          rw [hv d List.mem_cons_self] at hd
          cases hd
      · cases h
    · obtain ⟨u, hu, rfl⟩ := Option.map_eq_some_iff.mp h
      rw [ih hu fun d hd => hv d (List.mem_cons_of_mem c hd)]

theorem read?_of_nameStart {c : Char} {v : Text} (hc : Text.isNameStart c = true) :
    read? (c :: v) = readNamed? false (c :: v) := by
  have hd := Text.isDigit_eq_false_of_isNameStart hc
  have hs : takeSign (c :: v) = (false, c :: v) := by
    unfold takeSign
    split
    · next h =>
      cases h
      exact absurd hc (by decide)
    · next h =>
      cases h
      exact absurd hc (by decide)
    · rfl
  have hu : readUnsigned? false (c :: v) = none := by
    have hp := spanDigits_append (v := []) (x := c :: v) (List.forall_mem_nil _) (by simpa using hd)
    rw [List.nil_append] at hp
    have hpoint : c ≠ '.' := by
      rintro rfl
      exact absurd hc (by decide)
    simp [readUnsigned?, hp, hpoint]
  simp only [read?, hs, hu, Option.map_none]
  cases readNamed? false (c :: v) <;> rfl

/-- The names that are numbers are the words. -/
theorem readLoose?_name_iff {w : Text} (hw : Text.isName w = true) :
    (∃ x, readLoose? w = some x) ↔ IsWord w := by
  have hpart := Text.isNamePart_of_isName hw
  rw [readLoose?_of_plain fun c hc => Token.isNamePart_range (hpart c hc)]
  constructor
  · rintro ⟨x, h⟩
    obtain ⟨v, hv, hx⟩ := Option.bind_eq_some_iff.mp h
    cases w with
    | nil => cases hw
    | cons c rest =>
      have hc : Text.isNameStart c = true := (Bool.and_eq_true_iff.mp hw).1
      -- the first character stays, so what is read is a word
      have hword : IsWord v := by
        have hv := hv
        rw [dropUnderscores?] at hv
        split at hv
        · simp at hv
        · obtain ⟨u, -, rfl⟩ := Option.map_eq_some_iff.mp hv
          rw [read?_of_nameStart hc] at hx
          exact readNamed?_iff.mp ⟨x, hx⟩
      rw [← eq_of_dropUnderscores? hv fun d hd => (hword.letters d hd).1]
      exact hword
  · intro h
    rw [dropUnderscores?_eq_self false fun c hc => (h.letters c hc).2, Option.bind_some]
    cases w with
    | nil => cases hw
    | cons c rest =>
      rw [read?_of_nameStart (Bool.and_eq_true_iff.mp hw).1]
      exact readNamed?_iff.mpr h

end Reckoner.Decimal
