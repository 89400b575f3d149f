import Reckoner.Proofs.Text.Pattern
import Reckoner.Proofs.Token.Spelling

/-! # Patterns of names and numerals

Numerals are read by a pattern with alternatives in order: digits with an exponent, then a fraction
with an exponent or without, then digits alone. Its ways to match are tried from the longest to the
shortest: wherever two of them compete, the character that decides is a digit for one, and the point
or the letter of an exponent for the other.
-/
namespace Reckoner

namespace Pattern

def digits : Pattern := .run Text.isDigit

def exponent : Pattern :=
  .sequence (.one fun c => c == 'e' || c == 'E')
    (.sequence (.optional (.one fun c => c == '+' || c == '-')) digits)

def fraction : Pattern :=
  .choice (.sequence digits (.sequence (.one (· == '.')) (.optional digits)))
    (.sequence (.one (· == '.')) digits)

def numeral : Pattern :=
  .choice (.choice (.sequence digits exponent) (.sequence fraction (.optional exponent))) digits

def name : Pattern := .sequence (.one Text.isNameStart) (.optional (.run Text.isNamePart))

end Pattern

namespace Token

theorem matches_name {w : Text} : Pattern.name.Matches w ↔ Text.isName w = true := by
  constructor
  · intro h
    obtain ⟨c, v, rfl, hc, hv⟩ := Pattern.matches_after_one h
    refine Bool.and_eq_true_iff.mpr ⟨hc, List.all_eq_true.mpr ?_⟩
    cases hv with
    | present hv =>
      cases hv with
      | run _ hv => exact hv
    | missing => exact List.forall_mem_nil _
  · intro h
    cases w with
    | nil => cases h
    | cons c w =>
      obtain ⟨hc, hr⟩ := Bool.and_eq_true_iff.mp h
      have hr := List.all_eq_true.mp hr
      apply Pattern.Matches.sequence (v := [c]) (.one hc)
      cases w with
      | nil => exact .missing
      | cons d w => exact .present (.run (List.cons_ne_nil d w) hr)

theorem matches_digits {w : Text} : Pattern.digits.Matches w ↔ Digits w := by
  constructor
  · intro h
    cases h with
    | run hne hw => exact ⟨hne, hw⟩
  · intro h
    exact .run h.1 h.2

theorem matches_exponent {w : Text} : Pattern.exponent.Matches w ↔ Exponent w := by
  constructor
  · intro h
    obtain ⟨e, v, rfl, he, hv⟩ := Pattern.matches_after_one h
    simp only [Bool.or_eq_true, beq_iff_eq] at he
    cases hv with
    | sequence hs hd =>
      have hd := matches_digits.mp hd
      cases hs with
      | present hs =>
        cases hs with
        | one hs =>
          simp only [Bool.or_eq_true, beq_iff_eq] at hs
          exact .signed he hs hd
      | missing => exact .unsigned he hd
  · intro h
    cases h with
    | unsigned he hd =>
      exact .sequence (v := [_]) (.one (by simpa using he))
        (.sequence (v := []) .missing (matches_digits.mpr hd))
    | signed he hs hd =>
      exact .sequence (v := [_]) (.one (by simpa using he))
        (.sequence (v := [_]) (.present (.one (by simpa using hs))) (matches_digits.mpr hd))

theorem matches_fraction {w : Text} : Pattern.fraction.Matches w ↔ Fraction w := by
  constructor
  · intro h
    cases h with
    | left h =>
      cases h with
      | sequence hv hr =>
        have hv := matches_digits.mp hv
        obtain ⟨c, d, rfl, hc, hd⟩ := Pattern.matches_after_one hr
        obtain rfl := beq_iff_eq.mp hc
        cases hd with
        | present hd => exact .inner hv (matches_digits.mp hd)
        | missing => exact .trailing hv
    | right h =>
      obtain ⟨c, d, rfl, hc, hd⟩ := Pattern.matches_after_one h
      obtain rfl := beq_iff_eq.mp hc
      exact .leading (matches_digits.mp hd)
  · intro h
    cases h with
    | leading hd => exact .right (.sequence (v := ['.']) (.one rfl) (matches_digits.mpr hd))
    | trailing hd =>
      exact .left (.sequence (matches_digits.mpr hd) (.sequence (v := ['.']) (.one rfl) .missing))
    | inner hv hd =>
      exact .left (.sequence (matches_digits.mpr hv)
        (.sequence (v := ['.']) (.one rfl) (.present (matches_digits.mpr hd))))

theorem matches_numeral {w : Text} : Pattern.numeral.Matches w ↔ Numeral w := by
  constructor
  · intro h
    cases h with
    | left h =>
      cases h with
      | left h =>
        cases h with
        | sequence hd hx => exact .scaled (.whole (matches_digits.mp hd)) (matches_exponent.mp hx)
      | right h =>
        cases h with
        | @sequence _ _ v x hf hx =>
          have hf := Mantissa.fraction (matches_fraction.mp hf)
          cases hx with
          | present hx => exact .scaled hf (matches_exponent.mp hx)
          | missing =>
            rw [List.append_nil]
            exact .plain hf
    | right h => exact .plain (.whole (matches_digits.mp h))
  · intro h
    cases h with
    | plain hm =>
      cases hm with
      | whole hd => exact .right (matches_digits.mpr hd)
      | fraction hf =>
        rw [← List.append_nil w]
        exact .left (.right (.sequence (matches_fraction.mpr hf) .missing))
    | scaled hm hx =>
      have hx := matches_exponent.mpr hx
      cases hm with
      | whole hd => exact .left (.left (.sequence (matches_digits.mpr hd) hx))
      | fraction hf => exact .left (.right (.sequence (matches_fraction.mpr hf) (.present hx)))

/-! ## What decides between the ways to match -/

def firstMark? (w : Text) : Option Char := w.find? fun c => !Text.isDigit c

theorem Digits.firstMark?_eq_none {w : Text} (hw : ∀ c ∈ w, Text.isDigit c = true) :
    firstMark? w = none := by
  unfold firstMark?
  rw [List.find?_eq_none]
  intro c hc
  simp [hw c hc]

theorem firstMark?_append_cons {w : Text} (hw : ∀ c ∈ w, Text.isDigit c = true) {c : Char}
    (hc : Text.isDigit c = false) (v : Text) : firstMark? (w ++ c :: v) = some c := by
  have hn := Digits.firstMark?_eq_none hw
  unfold firstMark? at hn ⊢
  rw [List.find?_append, hn, Option.none_or, List.find?_cons_of_pos (by simp [hc])]

theorem firstMark?_of_start {v text : Text} {c : Char} (h : v <+: text)
    (hv : firstMark? v = some c) : firstMark? text = some c := by
  obtain ⟨more, rfl⟩ := h
  unfold firstMark? at hv ⊢
  rw [List.find?_append, hv, Option.some_or]

/-- A fraction is digits around a point, on one side at least. -/
theorem Fraction.split {w : Text} (hw : Fraction w) : ∃ before after, w = before ++ '.' :: after ∧
    (∀ c ∈ before, Text.isDigit c = true) ∧ ∀ c ∈ after, Text.isDigit c = true := by
  cases hw with
  | leading hd => exact ⟨[], _, rfl, List.forall_mem_nil _, hd.2⟩
  | trailing hd => exact ⟨_, [], rfl, hd.2, List.forall_mem_nil _⟩
  | inner hv hd => exact ⟨_, _, rfl, hv.2, hd.2⟩

theorem Fraction.count_point {w : Text} (hw : Fraction w) : w.count '.' = 1 := by
  have hz {v : Text} (hv : ∀ c ∈ v, Text.isDigit c = true) : v.count '.' = 0 := by
    apply List.count_eq_zero.mpr
    intro h
    exact absurd (hv '.' h) (by decide)
  obtain ⟨before, after, rfl, hb, ha⟩ := hw.split
  rw [List.count_append, List.count_cons_self, hz hb, hz ha]

/-- Only digits carry on a fraction. -/
theorem Fraction.digit_of_continued {v u : Text} {c : Char} (hv : Fraction v)
    (h : Fraction (v ++ c :: u)) : Text.isDigit c = true := by
  have hcount := h.count_point
  rw [List.count_append, hv.count_point] at hcount
  have hc : c ≠ '.' := by
    rintro rfl
    rw [List.count_cons_self] at hcount
    omega
  have hmem : c ∈ v ++ c :: u := List.mem_append_right v List.mem_cons_self
  obtain ⟨before, after, heq, hb, ha⟩ := h.split
  rw [heq] at hmem
  rcases List.mem_append.mp hmem with hm | hm
  · exact hb c hm
  · rcases List.mem_cons.mp hm with rfl | hm
    · contradiction
    · exact ha c hm

/-- Where the digits end, an exponent begins or a point stands. -/
theorem firstMark?_scaled {w x : Text} (hw : Digits w) (hx : Exponent x) :
    ∃ e, firstMark? (w ++ x) = some e ∧ e ≠ '.' := by
  obtain ⟨e, more, rfl, hd, hp⟩ := hx.head
  exact ⟨e, firstMark?_append_cons hw.2 hd more, hp⟩

theorem firstMark?_fraction {w : Text} (hw : Fraction w) (x : Text) :
    firstMark? (w ++ x) = some '.' := by
  obtain ⟨before, after, rfl, hb, -⟩ := hw.split
  rw [List.append_assoc, List.cons_append]
  exact firstMark?_append_cons hb (by decide) (after ++ x)

/-! ## The order of the ways to match -/

theorem falling_exponent : Pattern.exponent.Falling := by
  apply Pattern.Falling.after_one
  refine .sequence (.optional (Pattern.falling_one _) ?_) (Pattern.falling_run _) ?_
  · intro w hw
    cases hw
    exact List.cons_ne_nil _ _
  · -- a sign is no digit
    intro v c u w hv hlong hd
    have hc : Text.isDigit c = true := (matches_digits.mp hd).2 c List.mem_cons_self
    cases hv with
    | present hv =>
      generalize hw : v ++ c :: u = long at hlong
      cases hlong with
      | present hlong =>
        subst hw
        exact Pattern.one_not_continued hv hlong
      | missing => simp at hw
    | missing =>
      cases hlong with
      | present hs =>
        cases hs with
        | one hs =>
          simp only [Bool.or_eq_true, beq_iff_eq] at hs
          rcases hs with rfl | rfl
          · exact absurd hc (by decide)
          · exact absurd hc (by decide)

/-- Digits carry on digits, and start nothing that comes after digits. -/
theorem falling_after_digits {q : Pattern} (hq : q.Falling)
    (h : ∀ c w, q.Matches (c :: w) → Text.isDigit c = false) :
    (Pattern.sequence .digits q).Falling := by
  refine .sequence (Pattern.falling_run _) hq ?_
  intro v c u w _ hlong hw
  have hc := (matches_digits.mp hlong).2 c (List.mem_append_right v List.mem_cons_self)
  rw [h c w hw] at hc
  cases hc

theorem falling_fraction : Pattern.fraction.Falling := by
  have hdigits : Pattern.digits.Falling := Pattern.falling_run _
  have hoptional : (Pattern.optional .digits).Falling := by
    apply hdigits.optional
    intro w hw
    exact (matches_digits.mp hw).1
  refine .choice (falling_after_digits (.after_one _ hoptional) ?_) (.after_one _ hdigits) ?_
  · intro c w h
    obtain ⟨d, v, heq, hd, -⟩ := Pattern.matches_after_one h
    obtain ⟨rfl, -⟩ := List.cons.inj heq
    obtain rfl := beq_iff_eq.mp hd
    decide
  · -- one starts with a digit and the other with the point
    intro v w text hv hw hvt hwt
    obtain ⟨c, u, rfl, hc, -⟩ := Pattern.matches_after_one hw
    obtain rfl := beq_iff_eq.mp hc
    obtain ⟨more, rfl⟩ := hwt
    obtain ⟨rest, hrest⟩ := hvt
    cases hv with
    | @sequence _ _ d r hd _ =>
      obtain ⟨hne, hall⟩ := matches_digits.mp hd
      cases d with
      | nil => contradiction
      | cons c d =>
        obtain ⟨rfl, -⟩ := List.cons.inj hrest
        exact absurd (hall '.' List.mem_cons_self) (by decide)

/-- The ways to match a numeral are tried from the longest to the shortest. -/
theorem falling_numeral : Pattern.numeral.Falling := by
  have hscaled : (Pattern.sequence .digits .exponent).Falling := by
    refine falling_after_digits falling_exponent ?_
    intro c w hx
    obtain ⟨e, more, heq, he, -⟩ := (matches_exponent.mp hx).head
    obtain ⟨rfl, -⟩ := List.cons.inj heq
    exact he
  have hfraction : (Pattern.sequence .fraction (.optional .exponent)).Falling := by
    refine .sequence falling_fraction (falling_exponent.optional ?_) ?_
    · intro x hx
      obtain ⟨e, more, rfl, -⟩ := (matches_exponent.mp hx).head
      exact List.cons_ne_nil e more
    · intro v c u w hv hlong hx
      have hc := (matches_fraction.mp hv).digit_of_continued (matches_fraction.mp hlong)
      cases hx with
      | present hx =>
        obtain ⟨e, more, heq, he, -⟩ := (matches_exponent.mp hx).head
        obtain ⟨rfl, -⟩ := List.cons.inj heq
        rw [he] at hc
        cases hc
  refine .choice (.choice hscaled hfraction ?_) (Pattern.falling_run _) ?_
  · -- never both: an exponent comes after the digits, or a point
    intro v w text hv hw hvt hwt
    cases hv with
    | sequence hd hx =>
      cases hw with
      | sequence hf _ =>
        have hpoint := firstMark?_of_start hwt (firstMark?_fraction (matches_fraction.mp hf) _)
        obtain ⟨e, he, hp⟩ := firstMark?_scaled (matches_digits.mp hd) (matches_exponent.mp hx)
        cases hpoint.symm.trans (firstMark?_of_start hvt he)
        exact absurd rfl hp
  · -- digits alone end before the point or the exponent
    intro v w text hv hw hvt hwt
    have hmark : ∃ c, firstMark? v = some c := by
      cases hv with
      | left hv =>
        cases hv with
        | sequence hd hx =>
          obtain ⟨e, he, -⟩ := firstMark?_scaled (matches_digits.mp hd) (matches_exponent.mp hx)
          exact ⟨e, he⟩
      | right hv =>
        cases hv with
        | sequence hf _ => exact ⟨_, firstMark?_fraction (matches_fraction.mp hf) _⟩
    obtain ⟨c, hc⟩ := hmark
    by_contra hle
    have hpre := List.prefix_of_prefix_length_le hvt hwt (Nat.le_of_not_lt hle)
    have hin := firstMark?_of_start hpre hc
    rw [Digits.firstMark?_eq_none (matches_digits.mp hw).2] at hin
    cases hin

/-- A number is read exactly where the pattern matches, and as far as its first match. -/
theorem munch_number_iff {w text : Text} :
    Munch .number w text ↔ ∃ rest, text = w ++ rest ∧ Pattern.numeral.first? text = some rest := by
  constructor
  · intro h
    obtain ⟨rest, rfl⟩ := h.starts
    refine ⟨rest, rfl, falling_numeral.first?_eq_some.mpr
      ⟨w, matches_numeral.mpr h.spells, rfl, ?_⟩⟩
    intro v hv hpre
    exact h.longest .number v (matches_numeral.mp hv) hpre
  · rintro ⟨rest, rfl, hfirst⟩
    obtain ⟨v, hv, heq, hmax⟩ := falling_numeral.first?_eq_some.mp hfirst
    obtain rfl := List.append_cancel_right heq
    have hw : Spells .number w := matches_numeral.mp hv
    refine ⟨List.prefix_append _ _, hw, ?_⟩
    intro other u hu hpre
    -- what a numeral starts with, no name and no mark does
    obtain ⟨n, hn, hle⟩ := longest?_append hw rest
    obtain ⟨more, hmore⟩ := hpre
    obtain ⟨m, hm, hum⟩ := longest?_append hu more
    rw [hmore, hn, Option.some.injEq, Prod.mk.injEq] at hm
    obtain ⟨rfl, rfl⟩ := hm
    exact hmax u (matches_numeral.mpr hu) ⟨more, hmore⟩

end Token

end Reckoner
