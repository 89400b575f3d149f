import Mathlib.Tactic.IntervalCases
import Reckoner.Number.Decimal
import Reckoner.Proofs.Text.Lines
import Reckoner.Proofs.Text.Trim
import Reckoner.Proofs.Token.Margins

/-! # Numerals of the grammar are numbers

The reader of bound values accepts blanks, underscores, signs, the digits of every script and the
names of the infinite values. On a numeral of the grammar none of this comes into play: it is read
digit by digit, with its fraction and exponent, and always gives a number.
-/
namespace Reckoner.Decimal
open Token

theorem mem_of_isNumeralPart {c : Char} (h : isNumeralPart c = true) :
    c ∈ "0123456789.eE+-".toList := by
  simp only [isNumeralPart, Bool.or_eq_true, beq_iff_eq, Text.isDigit_iff] at h
  rcases h with ((((⟨hl, hu⟩ | rfl) | rfl) | rfl) | rfl) | rfl
  · rw [← Char.ofNat_toNat c]
    interval_cases c.toNat <;> decide
  all_goals decide

theorem toAscii_eq_self {w : Text} (h : ∀ c ∈ w, c.toNat < 127) : Numeral.toAscii w = w := by
  have hzeros : ∀ z ∈ Numeral.zeros.tail, 127 ≤ z := by decide
  rw [Numeral.toAscii, List.map_congr_left (g := id), List.map_id]
  intro c hc
  have hlt := h c hc
  by_cases hd : Text.isDigit c = true
  · obtain ⟨hl, hu⟩ := (Text.isDigit_iff c).mp hd
    rw [← Char.ofNat_toNat c]
    interval_cases c.toNat <;> decide
  · have hnone : Numeral.digit? c = none := by
      unfold Numeral.digit?
      rw [List.find?_eq_none.mpr]
      intro z hz
      rw [Text.isDigit_iff] at hd
      simp only [Bool.and_eq_true, decide_eq_true_eq]
      rcases List.mem_cons.mp hz with rfl | hz
      · omega
      · have hle := hzeros z hz
        omega
    simp only [hnone, id]

/-- In ASCII without blanks nothing is trimmed or replaced, and only underscores may be dropped. -/
theorem readLoose?_of_plain {w : Text} (h : ∀ c ∈ w, 32 < c.toNat ∧ c.toNat < 127) :
    readLoose? w = (dropUnderscores? false w).bind read? := by
  have hs : ∀ c ∈ w, Blank.isSpace c = false := fun c hc =>
    Blank.isSpace_eq_false (h c hc).1 (h c hc).2
  rw [readLoose?, Text.trim_eq_self hs, toAscii_eq_self fun c hc => (h c hc).2]

theorem dropUnderscores?_eq_self (before : Bool) {w : Text} (h : ∀ c ∈ w, c ≠ '_') :
    dropUnderscores? before w = some w := by
  induction w generalizing before with
  | nil => rfl
  | cons c rest ih =>
    obtain ⟨hc, hr⟩ := List.forall_mem_cons.mp h
    rw [dropUnderscores?, if_neg hc, ih _ hr, Option.map_some]

theorem readLoose?_of_parts {w : Text} (h : ∀ c ∈ w, isNumeralPart c = true) :
    readLoose? w = read? w := by
  have hu : ∀ c ∈ w, c ≠ '_' := by
    rintro c hc rfl
    exact absurd (h '_' hc) (by decide)
  rw [readLoose?_of_plain fun c hc => isNumeralPart_range (h c hc),
    dropUnderscores?_eq_self false hu, Option.bind_some]

theorem read?_of_head {c : Char} {v : Text} (hc : Text.isDigit c = true ∨ c = '.') :
    read? (c :: v) = (readUnsigned? false (c :: v)).map Numeral.toFloat := by
  have hmem : c ∈ "0123456789.".toList := by
    rcases hc with hc | rfl
    · obtain ⟨hl, hu⟩ := (Text.isDigit_iff c).mp hc
      rw [← Char.ofNat_toNat c]
      interval_cases c.toNat <;> decide
    · decide
  have hplain : ∀ c ∈ "0123456789.".toList,
      c ≠ '+' ∧ c ≠ '-' ∧ c.toLower ≠ 'i' ∧ c.toLower ≠ 'n' := Text.forall_of_all (by decide)
  obtain ⟨h₁, h₂, h₃, h₄⟩ := hplain c hmem
  have hs : takeSign (c :: v) = (false, c :: v) := by
    unfold takeSign
    split <;> simp_all
  have hn : readNamed? false (c :: v) = none := by
    simp [readNamed?, Text.lower, h₃, h₄]
  simp only [read?, hs, hn]

theorem spanDigits_append {v x : Text} (hv : ∀ c ∈ v, Text.isDigit c = true)
    (hx : ∀ c ∈ x.head?, Text.isDigit c = false) : spanDigits (v ++ x) = (v, x) := by
  obtain ⟨ht, hd⟩ := Text.takeWhile_append_stop hv hx
  rw [spanDigits, ht, hd]

theorem readExponent?_of_exponent {x : Text} (hx : Exponent x) :
    ∃ e, readExponent? x = some e := by
  cases hx with
  | @unsigned e w he hw =>
    obtain ⟨hne, hd⟩ := hw
    have hs : takeSign w = (false, w) := by
      unfold takeSign
      split
      · exact absurd (hd '+' List.mem_cons_self) (by decide)
      · exact absurd (hd '-' List.mem_cons_self) (by decide)
      · rfl
    have ha : w.all Text.isDigit = true := List.all_eq_true.mpr hd
    refine ⟨(natOf w : Int), ?_⟩
    simp [readExponent?, he, hs, ha, hne]
  | @signed e s w he hsign hw =>
    obtain ⟨hne, hd⟩ := hw
    have ha : w.all Text.isDigit = true := List.all_eq_true.mpr hd
    rcases hsign with rfl | rfl
    · refine ⟨(natOf w : Int), ?_⟩
      simp [readExponent?, he, takeSign, ha, hne]
    · refine ⟨-(natOf w : Int), ?_⟩
      simp [readExponent?, he, takeSign, ha, hne]

/-- A mantissa is read up to whatever may follow it in a numeral. -/
theorem readUnsigned?_mantissa {w x : Text} (hw : Mantissa w)
    (hx : ∀ c ∈ x.head?, Text.isDigit c = false ∧ c ≠ '.') {e : Int}
    (he : readExponent? x = some e) : (readUnsigned? false (w ++ x)).isSome = true := by
  have hd : ∀ c ∈ x.head?, Text.isDigit c = false := fun c hc => (hx c hc).1
  have hp (more : Text) : ∀ c ∈ ('.' :: more : Text).head?, Text.isDigit c = false := by
    rintro c hc
    cases hc
    rfl
  cases hw with
  | whole h =>
    simp only [readUnsigned?, spanDigits_append h.2 hd]
    split
    · exact absurd rfl (hx '.' rfl).2
    · simp [h.1, he]
  | fraction h =>
    cases h with
    | @leading v hv =>
      have hs := spanDigits_append (v := []) (by simp) (hp (v ++ x))
      rw [List.nil_append] at hs
      simp only [readUnsigned?, List.cons_append, hs, spanDigits_append hv.2 hd, he]
      simp [hv.1]
    | @trailing v hv =>
      have hs := spanDigits_append hv.2 (hp x)
      have hn := spanDigits_append (v := []) (by simp) hd
      rw [List.nil_append] at hn
      simp only [readUnsigned?, List.append_assoc, List.singleton_append, hs, hn, he]
      simp [hv.1]
    | @inner u v hu hv =>
      have hs := spanDigits_append hu.2 (hp (v ++ x))
      simp only [readUnsigned?, List.append_assoc, List.cons_append, hs, spanDigits_append hv.2 hd,
        he]
      simp [hu.1]

theorem readUnsigned?_negative {negative : Bool} {text : Text} {n : Numeral}
    (h : readUnsigned? negative text = some n) : n.negative = negative := by
  unfold readUnsigned? at h
  extract_lets whole part at h
  by_cases he : (whole.1.isEmpty && part.1.isEmpty) = true
  · rw [if_pos he] at h
    cases h
  · rw [if_neg he] at h
    obtain ⟨e, -, rfl⟩ := Option.map_eq_some_iff.mp h
    rfl

theorem readLoose?_eq_of_numeral {w : Text} (hw : Token.Numeral w) :
    ∃ n : Numeral, n.negative = false ∧ readLoose? w = some n.toFloat := by
  obtain ⟨c, v, hv, hc⟩ := hw.head
  have hr : (readUnsigned? false w).isSome = true := by
    cases hw with
    | plain h => simpa using readUnsigned?_mantissa h (x := []) (by simp) rfl
    | scaled h hx =>
      obtain ⟨e, he⟩ := readExponent?_of_exponent hx
      refine readUnsigned?_mantissa h (fun c hc => ?_) he
      obtain ⟨d, more, rfl, hd⟩ := hx.head
      cases hc
      exact hd
  obtain ⟨n, hn⟩ := Option.isSome_iff_exists.mp hr
  refine ⟨n, readUnsigned?_negative hn, ?_⟩
  rw [readLoose?_of_parts hw.parts, hv, read?_of_head hc, ← hv, hn, Option.map_some]

/-- Every numeral of the grammar is read as a number. -/
theorem readLoose?_of_numeral {w : Text} (hw : Token.Numeral w) : ∃ x, readLoose? w = some x := by
  obtain ⟨n, -, hn⟩ := readLoose?_eq_of_numeral hw
  exact ⟨n.toFloat, hn⟩

end Reckoner.Decimal
