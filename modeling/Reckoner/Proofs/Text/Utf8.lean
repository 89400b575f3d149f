import Mathlib.Tactic.SplitIfs
import Reckoner.Text.Utf8

/-! # Reading UTF-8

Reading undoes writing, and what can be read is what is written for the text read. The first byte of
a longer form says how many bytes follow it, and the range of the second byte leaves out what no
form begins with: numbers that take fewer bytes, surrogates, and numbers past the last character.
-/
namespace Reckoner.Utf8
open String (utf8EncodeChar)

/-- Bytes finish a form that has been begun, and the number of its character is known. -/
inductive Finishes : Pending → List UInt8 → Nat → Prop
  | last {p : Pending} {b : UInt8} (hr : p.low ≤ b.toNat ∧ b.toNat ≤ p.high) (ho : p.owed ≤ 1) :
      Finishes p [b] (p.bits * 0x40 + (b.toNat - 0x80))
  | more {p : Pending} {b : UInt8} {bytes : List UInt8} {n : Nat}
      (hr : p.low ≤ b.toNat ∧ b.toNat ≤ p.high) (ho : ¬ p.owed ≤ 1)
      (h : Finishes ⟨p.owed - 1, 0x80, 0xbf, p.bits * 0x40 + (b.toNat - 0x80)⟩ bytes n) :
      Finishes p (b :: bytes) n

/-! ## Forms that have been begun -/

theorem decodeFrom_finishes {p : Pending} {bytes : List UInt8} {n : Nat} (h : Finishes p bytes n)
    (rest : List UInt8) : decodeFrom (some p) (bytes ++ rest) =
      (decodeFrom none rest).map (Char.ofNat n :: ·) := by
  induction h with
  | last hr ho =>
    rw [List.singleton_append, decodeFrom, if_pos hr]
    exact if_pos ho
  | more hr ho h ih =>
    rw [List.cons_append, decodeFrom, if_pos hr, ← ih]
    exact if_neg ho

theorem map_cons_eq_ok {result : Except Fault Text} {c : Char} {text : Text}
    (h : result.map (c :: ·) = .ok text) : ∃ rest, result = .ok rest ∧ text = c :: rest := by
  cases result with
  | error fault => cases h
  | ok rest =>
    cases h
    exact ⟨rest, rfl, rfl⟩

theorem exists_finishes {p : Pending} {bytes : List UInt8} {text : Text}
    (h : decodeFrom (some p) bytes = .ok text) : ∃ front n rest more, bytes = front ++ rest ∧
      Finishes p front n ∧ decodeFrom none rest = .ok more ∧ text = Char.ofNat n :: more := by
  induction bytes generalizing p with
  | nil => cases h
  | cons b bytes ih =>
    rw [decodeFrom] at h
    by_cases hr : p.low ≤ b.toNat ∧ b.toNat ≤ p.high
    · rw [if_pos hr] at h
      by_cases ho : p.owed ≤ 1
      · simp only [if_pos ho] at h
        obtain ⟨more, hm, ht⟩ := map_cons_eq_ok h
        exact ⟨[b], _, bytes, more, rfl, .last hr ho, hm, ht⟩
      · simp only [if_neg ho] at h
        obtain ⟨front, n, rest, more, rfl, hf, hm, ht⟩ := ih h
        exact ⟨b :: front, n, rest, more, rfl, .more hr ho hf, hm, ht⟩
    · rw [if_neg hr] at h
      cases h

section Counts
variable {low high bits n : Nat} {bytes : List UInt8}

theorem finishes_one : Finishes ⟨1, low, high, bits⟩ bytes n ↔ ∃ b : UInt8,
    (low ≤ b.toNat ∧ b.toNat ≤ high) ∧ bytes = [b] ∧ n = bits * 0x40 + (b.toNat - 0x80) := by
  constructor
  · intro h
    cases h with
    | last hr => exact ⟨_, hr, rfl, rfl⟩
    | more _ hm => exact absurd (Nat.le_refl 1) hm
  · rintro ⟨b, hr, hb, hn⟩
    rw [hb, hn]
    exact .last hr (Nat.le_refl 1)

theorem finishes_succ {count : Nat} : Finishes ⟨count + 2, low, high, bits⟩ bytes n ↔
    ∃ (b : UInt8) (rest : List UInt8), (low ≤ b.toNat ∧ b.toNat ≤ high) ∧ bytes = b :: rest ∧
      Finishes ⟨count + 1, 0x80, 0xbf, bits * 0x40 + (b.toNat - 0x80)⟩ rest n := by
  have hc : ¬ count + 2 ≤ 1 := by omega
  constructor
  · intro h
    cases h with
    | last _ hl => exact absurd hl hc
    | more hr _ h => exact ⟨_, _, hr, rfl, h⟩
  · rintro ⟨b, rest, hr, rfl, h⟩
    exact .more hr hc h

end Counts

/-! ## First bytes -/

theorem lead?_two {b : Nat} (h : 0xc2 ≤ b) (h' : b < 0xe0) :
    lead? b = some ⟨1, 0x80, 0xbf, b - 0xc0⟩ := by
  rw [lead?, if_neg (by omega), if_pos h']

/-- The bits of the first two bytes of three are neither too few nor those of a surrogate. -/
theorem lead?_three {b : Nat} (h : 0xe0 ≤ b) (h' : b < 0xf0) :
    ∃ low high, lead? b = some ⟨2, low, high, b - 0xe0⟩ ∧ ∀ c, low ≤ c ∧ c ≤ high ↔
      (0x80 ≤ c ∧ c ≤ 0xbf) ∧ 0x20 ≤ (b - 0xe0) * 0x40 + (c - 0x80) ∧
        ((b - 0xe0) * 0x40 + (c - 0x80) < 0x360 ∨ 0x380 ≤ (b - 0xe0) * 0x40 + (c - 0x80)) := by
  rw [lead?, if_neg (by omega), if_neg (by omega)]
  by_cases he : b = 0xe0
  · subst he
    exact ⟨0xa0, 0xbf, rfl, fun c => by omega⟩
  · rw [if_neg he]
    by_cases hd : b = 0xed
    · subst hd
      exact ⟨0x80, 0x9f, rfl, fun c => by omega⟩
    · rw [if_neg hd, if_pos h']
      exact ⟨0x80, 0xbf, rfl, fun c => by omega⟩

/-- The bits of the first two bytes of four are neither too few nor too many. -/
theorem lead?_four {b : Nat} (h : 0xf0 ≤ b) (h' : b < 0xf5) :
    ∃ low high, lead? b = some ⟨3, low, high, b - 0xf0⟩ ∧ ∀ c, low ≤ c ∧ c ≤ high ↔
      (0x80 ≤ c ∧ c ≤ 0xbf) ∧ 0x10 ≤ (b - 0xf0) * 0x40 + (c - 0x80) ∧
        (b - 0xf0) * 0x40 + (c - 0x80) < 0x110 := by
  rw [lead?, if_neg (by omega), if_neg (by omega), if_neg (by omega), if_neg (by omega),
    if_neg (by omega)]
  by_cases h0 : b = 0xf0
  · subst h0
    exact ⟨0x90, 0xbf, rfl, fun c => by omega⟩
  · rw [if_neg h0]
    by_cases hm : b < 0xf4
    · rw [if_pos hm]
      exact ⟨0x80, 0xbf, rfl, fun c => by omega⟩
    · have hb : b = 0xf4 := by omega
      subst hb
      exact ⟨0x80, 0x8f, rfl, fun c => by omega⟩

theorem bounds_of_lead? {b : Nat} {p : Pending} (h : lead? b = some p) : 0xc2 ≤ b ∧ b < 0xf5 := by
  unfold lead? at h
  split_ifs at h <;> omega

/-! ## Forms of characters -/

theorem toNat_ofNat {n : Nat} (h : n.isValidChar) : (Char.ofNat n).toNat = n := by
  rw [Char.ofNat, dif_pos h]
  rfl

section Forms
variable {c : Char}

theorem form_one (h : c.toNat < 0x80) : utf8EncodeChar c = [UInt8.ofNat c.toNat] :=
  if_pos (Nat.le_of_lt_succ h)

theorem form_two (h : 0x80 ≤ c.toNat) (h' : c.toNat < 0x800) : utf8EncodeChar c =
    [UInt8.ofNat (c.toNat / 0x40 + 0xc0), UInt8.ofNat (c.toNat % 0x40 + 0x80)] := by
  have hm : c.toNat / 0x40 % 0x20 = c.toNat / 0x40 := Nat.mod_eq_of_lt (by omega)
  change (if c.toNat ≤ 0x7f then _ else if c.toNat ≤ 0x7ff then _ else _) = _
  rw [if_neg (by omega), if_pos (by omega), ← hm]
  rfl

theorem form_three (h : 0x800 ≤ c.toNat) (h' : c.toNat < 0x10000) : utf8EncodeChar c =
    [UInt8.ofNat (c.toNat / 0x1000 + 0xe0), UInt8.ofNat (c.toNat / 0x40 % 0x40 + 0x80),
      UInt8.ofNat (c.toNat % 0x40 + 0x80)] := by
  have hm : c.toNat / 0x1000 % 0x10 = c.toNat / 0x1000 := Nat.mod_eq_of_lt (by omega)
  change (if c.toNat ≤ 0x7f then _ else if c.toNat ≤ 0x7ff then _ else
    if c.toNat ≤ 0xffff then _ else _) = _
  rw [if_neg (by omega), if_neg (by omega), if_pos (by omega), ← hm]
  rfl

theorem form_four (h : 0x10000 ≤ c.toNat) : utf8EncodeChar c =
    [UInt8.ofNat (c.toNat / 0x40000 + 0xf0), UInt8.ofNat (c.toNat / 0x1000 % 0x40 + 0x80),
      UInt8.ofNat (c.toNat / 0x40 % 0x40 + 0x80), UInt8.ofNat (c.toNat % 0x40 + 0x80)] := by
  have hc : c.toNat < 0x110000 := by
    rcases c.valid with hv | hv
    · exact Nat.lt_trans hv (by decide)
    · exact hv.2
  have hm : c.toNat / 0x40000 % 8 = c.toNat / 0x40000 := Nat.mod_eq_of_lt (by omega)
  change (if c.toNat ≤ 0x7f then _ else if c.toNat ≤ 0x7ff then _ else
    if c.toNat ≤ 0xffff then _ else _) = _
  rw [if_neg (by omega), if_neg (by omega), if_neg (by omega), ← hm]
  rfl

end Forms

/-- What a first byte announces and the bytes that finish it are the form of a character. -/
theorem form_of_finishes {b : UInt8} {p : Pending} {front : List UInt8} {n : Nat}
    (hl : lead? b.toNat = some p) (hf : Finishes p front n) :
    utf8EncodeChar (Char.ofNat n) = b :: front := by
  obtain ⟨hlow, hhigh⟩ := bounds_of_lead? hl
  by_cases h2 : b.toNat < 0xe0
  · rw [lead?_two hlow h2] at hl
    cases hl
    obtain ⟨c, hc, rfl, hn⟩ := finishes_one.mp hf
    have hv : (Char.ofNat n).toNat = n := toNat_ofNat (.inl (by omega))
    have hb : n / 0x40 + 0xc0 = b.toNat := by omega
    have hlast : n % 0x40 + 0x80 = c.toNat := by omega
    rw [form_two (by omega) (by omega), hv, hb, hlast, UInt8.ofNat_toNat, UInt8.ofNat_toNat]
  · by_cases h3 : b.toNat < 0xf0
    · obtain ⟨low, high, hp, hr⟩ := lead?_three (Nat.le_of_not_lt h2) h3
      rw [hp] at hl
      cases hl
      obtain ⟨c, two, hc, rfl, htwo⟩ := finishes_succ.mp hf
      obtain ⟨d, hd, rfl, hn⟩ := finishes_one.mp htwo
      obtain ⟨hc, hmin, hs⟩ := (hr _).mp hc
      have hv : (Char.ofNat n).toNat = n := toNat_ofNat (by unfold Nat.isValidChar; omega)
      have hb : n / 0x1000 + 0xe0 = b.toNat := by omega
      have hmid : n / 0x40 % 0x40 + 0x80 = c.toNat := by omega
      have hlast : n % 0x40 + 0x80 = d.toNat := by omega
      rw [form_three (by omega) (by omega), hv, hb, hmid, hlast]
      simp only [UInt8.ofNat_toNat]
    · obtain ⟨low, high, hp, hr⟩ := lead?_four (Nat.le_of_not_lt h3) hhigh
      rw [hp] at hl
      cases hl
      obtain ⟨c, three, hc, rfl, hthree⟩ := finishes_succ.mp hf
      obtain ⟨d, two, hd, rfl, htwo⟩ := finishes_succ.mp hthree
      obtain ⟨e, he, rfl, hn⟩ := finishes_one.mp htwo
      obtain ⟨hc, hmin, hmax⟩ := (hr _).mp hc
      have hv : (Char.ofNat n).toNat = n := toNat_ofNat (by unfold Nat.isValidChar; omega)
      have hb : n / 0x40000 + 0xf0 = b.toNat := by omega
      have hsecond : n / 0x1000 % 0x40 + 0x80 = c.toNat := by omega
      have hthird : n / 0x40 % 0x40 + 0x80 = d.toNat := by omega
      have hlast : n % 0x40 + 0x80 = e.toNat := by omega
      rw [form_four (by omega), hv, hb, hsecond, hthird, hlast]
      simp only [UInt8.ofNat_toNat]

theorem toNat_byte {n : Nat} (h : n < 0x100) : (UInt8.ofNat n).toNat = n :=
  UInt8.toNat_ofNat_of_lt' h

theorem toNat_later (n : Nat) : (UInt8.ofNat (n % 0x40 + 0x80)).toNat = n % 0x40 + 0x80 :=
  toNat_byte (by omega)

theorem exists_lead {c : Char} (h : 0x80 ≤ c.toNat) : ∃ b p front,
    utf8EncodeChar c = b :: front ∧ lead? b.toNat = some p ∧ Finishes p front c.toNat := by
  have hlast := toNat_later c.toNat
  have hthird := toNat_later (c.toNat / 0x40)
  have hv : c.toNat.isValidChar := c.valid
  unfold Nat.isValidChar at hv
  by_cases h2 : c.toNat < 0x800
  · have hb : (UInt8.ofNat (c.toNat / 0x40 + 0xc0)).toNat = c.toNat / 0x40 + 0xc0 :=
      toNat_byte (by omega)
    refine ⟨_, _, _, form_two h h2, lead?_two (by omega) (by omega), ?_⟩
    exact finishes_one.mpr ⟨_, by omega, rfl, by omega⟩
  · by_cases h3 : c.toNat < 0x10000
    · have hb : (UInt8.ofNat (c.toNat / 0x1000 + 0xe0)).toNat = c.toNat / 0x1000 + 0xe0 :=
        toNat_byte (by omega)
      have hlow : 0xe0 ≤ (UInt8.ofNat (c.toNat / 0x1000 + 0xe0)).toNat := by omega
      obtain ⟨low, high, hp, hr⟩ := lead?_three hlow (by omega)
      refine ⟨_, _, _, form_three (Nat.le_of_not_lt h2) h3, hp, ?_⟩
      refine finishes_succ.mpr ⟨_, _, (hr _).mpr ?_, rfl, ?_⟩
      · omega
      · exact finishes_one.mpr ⟨_, by omega, rfl, by omega⟩
    · have hb : (UInt8.ofNat (c.toNat / 0x40000 + 0xf0)).toNat = c.toNat / 0x40000 + 0xf0 :=
        toNat_byte (by omega)
      have hsecond := toNat_later (c.toNat / 0x1000)
      have hlow : 0xf0 ≤ (UInt8.ofNat (c.toNat / 0x40000 + 0xf0)).toNat := by omega
      obtain ⟨low, high, hp, hr⟩ := lead?_four hlow (by omega)
      refine ⟨_, _, _, form_four (Nat.le_of_not_lt h3), hp, ?_⟩
      refine finishes_succ.mpr ⟨_, _, (hr _).mpr ?_, rfl, ?_⟩
      · omega
      · refine finishes_succ.mpr ⟨_, _, by omega, rfl, ?_⟩
        exact finishes_one.mpr ⟨_, by omega, rfl, by omega⟩

/-! ## Texts -/

theorem decodeFrom_form (c : Char) (rest : List UInt8) :
    decodeFrom none (utf8EncodeChar c ++ rest) = (decodeFrom none rest).map (c :: ·) := by
  by_cases h : c.toNat < 0x80
  · have hb : (UInt8.ofNat c.toNat).toNat = c.toNat := toNat_byte (by omega)
    rw [form_one h, List.singleton_append, decodeFrom, hb, if_pos h, Char.ofNat_toNat]
  · obtain ⟨b, p, front, hform, hlead, hf⟩ := exists_lead (Nat.le_of_not_lt h)
    have hb : ¬ b.toNat < 0x80 := by
      have := (bounds_of_lead? hlead).1
      omega
    rw [hform, List.cons_append, decodeFrom, if_neg hb, hlead]
    exact (decodeFrom_finishes hf rest).trans (by rw [Char.ofNat_toNat])

theorem decode_encode (text : Text) : decode (encode text) = .ok text := by
  induction text with
  | nil => rfl
  | cons c text ih =>
    change decodeFrom none (utf8EncodeChar c ++ encode text) = _
    rw [decodeFrom_form]
    change (decode (encode text)).map (c :: ·) = _
    rw [ih]
    rfl

theorem encode_of_decode {bytes : List UInt8} {text : Text} (h : decode bytes = .ok text) :
    bytes = encode text := by
  induction hn : bytes.length using Nat.strongRecOn generalizing bytes text with
  | ind length ih =>
    cases bytes with
    | nil =>
      cases h
      rfl
    | cons b bytes =>
      rw [decode, decodeFrom] at h
      by_cases hb : b.toNat < 0x80
      · rw [if_pos hb] at h
        obtain ⟨more, hm, rfl⟩ := map_cons_eq_ok h
        have hv : (Char.ofNat b.toNat).toNat = b.toNat := toNat_ofNat (.inl (by omega))
        have hlt : bytes.length < length := by rw [← hn, List.length_cons]; omega
        rw [ih _ hlt hm rfl, encode, encode, List.flatMap_cons, form_one (by omega), hv,
          UInt8.ofNat_toNat]
        rfl
      · rw [if_neg hb] at h
        cases hl : lead? b.toNat with
        | none =>
          rw [hl] at h
          cases h
        | some p =>
          rw [hl] at h
          obtain ⟨front, n, rest, more, rfl, hf, hm, rfl⟩ := exists_finishes h
          have hlt : rest.length < length := by
            rw [← hn, List.length_cons, List.length_append]
            omega
          rw [ih _ hlt hm rfl, encode, encode, List.flatMap_cons, form_of_finishes hl hf]
          rfl

theorem decode_eq_ok {bytes : List UInt8} {text : Text} :
    decode bytes = .ok text ↔ bytes = encode text := by
  constructor
  · exact encode_of_decode
  · rintro rfl
    exact decode_encode text

end Reckoner.Utf8
