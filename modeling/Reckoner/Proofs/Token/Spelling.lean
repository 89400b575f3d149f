import Mathlib.Data.List.TakeWhile
import Reckoner.Proofs.Text.Character
import Reckoner.Token

/-! # Spellings of tokens

The texts of each kind of token are described here apart from the reader of tokens: numerals with
their fractions and exponents, names, and marks. The longest token that the reader finds at the
start of a text is the longest start of that text which is a spelling of any kind.
-/
namespace Reckoner.Token

def Digits (w : Text) : Prop := w ≠ [] ∧ ∀ c ∈ w, Text.isDigit c = true

inductive Exponent : Text → Prop
  | unsigned {e : Char} {w : Text} (he : e = 'e' ∨ e = 'E') (hw : Digits w) : Exponent (e :: w)
  | signed {e s : Char} {w : Text} (he : e = 'e' ∨ e = 'E') (hs : s = '+' ∨ s = '-')
      (hw : Digits w) : Exponent (e :: s :: w)

inductive Fraction : Text → Prop
  | leading {w : Text} (hw : Digits w) : Fraction ('.' :: w)
  | trailing {w : Text} (hw : Digits w) : Fraction (w ++ ['.'])
  | inner {v w : Text} (hv : Digits v) (hw : Digits w) : Fraction (v ++ '.' :: w)

inductive Mantissa : Text → Prop
  | whole {w : Text} (hw : Digits w) : Mantissa w
  | fraction {w : Text} (hw : Fraction w) : Mantissa w

inductive Numeral : Text → Prop
  | plain {w : Text} (hw : Mantissa w) : Numeral w
  | scaled {w x : Text} (hw : Mantissa w) (hx : Exponent x) : Numeral (w ++ x)

/-- The texts that are tokens of a kind. -/
def Spells : Kind → Text → Prop
  | .number, w => Numeral w
  | .name, w => Text.isName w = true
  | .plus, w => w = ['+']
  | .minus, w => w = ['-']
  | .star, w => w = ['*']
  | .slash, w => w = ['/']
  | .openParen, w => w = ['(']
  | .closeParen, w => w = [')']
  | .comma, w => w = [',']

/-- A spelling at the start of a text, and no start of the text is a longer one of any kind. -/
structure Munch (kind : Kind) (w text : Text) : Prop where
  starts : w <+: text
  spells : Spells kind w
  longest : ∀ other v, Spells other v → v <+: text → v.length ≤ w.length

/-! ## Runs of digits -/

theorem digitsLength_append {w : Text} (hw : ∀ c ∈ w, Text.isDigit c = true) (rest : Text) :
    digitsLength (w ++ rest) = w.length + digitsLength rest := by
  unfold digitsLength
  rw [List.takeWhile_append_of_pos hw, List.length_append]

theorem digitsLength_of_head {c : Char} {rest : Text} (hc : Text.isDigit c = false) :
    digitsLength (c :: rest) = 0 := by
  simp [digitsLength, hc]

theorem digitsLength_le (text : Text) : digitsLength text ≤ text.length := by
  simpa [digitsLength] using (List.takeWhile_prefix Text.isDigit).length_le

theorem split_digits (text : Text) : ∃ w rest, text = w ++ rest ∧
    (∀ c ∈ w, Text.isDigit c = true) ∧ (∀ c ∈ rest.head?, Text.isDigit c = false) ∧
    digitsLength text = w.length := by
  refine ⟨text.takeWhile Text.isDigit, text.dropWhile Text.isDigit, ?_, ?_, ?_, rfl⟩
  · exact List.takeWhile_append_dropWhile.symm
  · intro c hc
    exact List.mem_takeWhile_imp hc
  · intro c hc
    cases h : text.dropWhile Text.isDigit with
    | nil => simp [h] at hc
    | cons d more =>
      have hd := List.head?_dropWhile_not Text.isDigit text
      simp only [h, List.head?_cons, Option.mem_some_iff] at hd hc
      subst hc
      simpa using hd

theorem digitsLength_eq_zero {rest : Text} (h : ∀ c ∈ rest.head?, Text.isDigit c = false) :
    digitsLength rest = 0 := by
  cases rest with
  | nil => rfl
  | cons c more => exact digitsLength_of_head (h c rfl)

theorem digits_take {text : Text} (h : digitsLength text ≠ 0) :
    Digits (text.take (digitsLength text)) := by
  obtain ⟨w, rest, rfl, hw, -, hn⟩ := split_digits text
  rw [hn, List.take_left']
  · refine ⟨?_, hw⟩
    rintro rfl
    exact h hn
  · rfl

/-! ## Exponents -/

/-- An exponent starts with neither a digit nor the point. -/
theorem Exponent.head {x : Text} (hx : Exponent x) :
    ∃ e more, x = e :: more ∧ Text.isDigit e = false ∧ e ≠ '.' := by
  have hletter {e : Char} (he : e = 'e' ∨ e = 'E') : Text.isDigit e = false ∧ e ≠ '.' := by
    rcases he with rfl | rfl
    · decide
    · decide
  cases hx with
  | unsigned he _ => exact ⟨_, _, rfl, hletter he⟩
  | signed he _ _ => exact ⟨_, _, rfl, hletter he⟩

theorem exponentLength_append {x : Text} (hx : Exponent x) (rest : Text) :
    x.length ≤ exponentLength (x ++ rest) := by
  cases hx with
  | @unsigned e w he hw =>
    obtain ⟨hne, hd⟩ := hw
    cases w with
    | nil => contradiction
    | cons d more =>
      have hs : ¬(d = '+' ∨ d = '-') := by
        have h := hd d List.mem_cons_self
        rintro (rfl | rfl) <;> exact absurd h (by decide)
      have hn := digitsLength_append hd rest
      simp only [List.cons_append, List.length_cons] at hn
      simp only [List.cons_append, exponentLength, if_pos he, if_neg hs, hn, List.length_cons]
      split <;> omega
  | @signed e s w he hs hw =>
    obtain ⟨hne, hd⟩ := hw
    have hn := digitsLength_append hd rest
    have hp := List.length_pos_iff.mpr hne
    simp only [List.cons_append, exponentLength, if_pos he, if_pos hs, hn, List.length_cons]
    split <;> omega

theorem exponent_take {text : Text} (h : exponentLength text ≠ 0) :
    exponentLength text ≤ text.length ∧ Exponent (text.take (exponentLength text)) := by
  cases text with
  | nil => simp [exponentLength] at h
  | cons e rest =>
    by_cases he : e = 'e' ∨ e = 'E'
    · cases rest with
      | nil => simp [exponentLength] at h
      | cons s more =>
        by_cases hs : s = '+' ∨ s = '-'
        · by_cases hn : digitsLength more = 0
          · simp [exponentLength, he, hs, hn] at h
          · have hl : exponentLength (e :: s :: more) = digitsLength more + 2 := by
              simp [exponentLength, he, hs, hn]
            rw [hl]
            have hle := digitsLength_le more
            exact ⟨by simp only [List.length_cons]; omega, .signed he hs (digits_take hn)⟩
        · by_cases hn : digitsLength (s :: more) = 0
          · simp [exponentLength, he, hs, hn] at h
          · have hl : exponentLength (e :: s :: more) = digitsLength (s :: more) + 1 := by
              simp [exponentLength, he, hs, hn]
            rw [hl]
            have hle := digitsLength_le (s :: more)
            exact ⟨by simp only [List.length_cons] at hle ⊢; omega, .unsigned he (digits_take hn)⟩
    · simp [exponentLength, he] at h

/-! ## Mantissas -/

theorem mantissaLength_point {w : Text} (hw : ∀ c ∈ w, Text.isDigit c = true) (more : Text) :
    mantissaLength (w ++ '.' :: more) =
      if w.length = 0 ∧ digitsLength more = 0 then 0 else w.length + 1 + digitsLength more := by
  have hn : digitsLength (w ++ '.' :: more) = w.length := by
    rw [digitsLength_append hw, digitsLength_of_head (by decide), Nat.add_zero]
  simp [mantissaLength, hn]

theorem mantissaLength_whole {w rest : Text} (hw : ∀ c ∈ w, Text.isDigit c = true)
    (hr : ∀ c ∈ rest.head?, Text.isDigit c = false) (hp : rest.head? ≠ some '.') :
    mantissaLength (w ++ rest) = w.length := by
  have hn : digitsLength (w ++ rest) = w.length := by
    rw [digitsLength_append hw, digitsLength_eq_zero hr, Nat.add_zero]
  simp only [mantissaLength, hn, List.drop_left']
  split
  · simp_all
  · rfl

theorem Mantissa.ne_nil {w : Text} (hw : Mantissa w) : w ≠ [] := by
  cases hw with
  | whole h => exact h.1
  | fraction h => cases h <;> simp

theorem mantissaLength_append {w : Text} (hw : Mantissa w) (rest : Text) :
    w.length ≤ mantissaLength (w ++ rest) := by
  cases hw with
  | whole h =>
    -- the run of digits may go on, and a point may follow it
    obtain ⟨v, more, rfl, hv, hm, -⟩ := split_digits rest
    have hd : ∀ c ∈ w ++ v, Text.isDigit c = true := by
      intro c hc
      exact (List.mem_append.mp hc).elim (h.2 c) (hv c)
    have hp := List.length_pos_iff.mpr h.1
    rw [← List.append_assoc]
    by_cases hq : more.head? = some '.'
    · obtain ⟨tail, rfl⟩ := List.head?_eq_some_iff.mp hq
      rw [mantissaLength_point hd, List.length_append]
      split <;> omega
    · rw [mantissaLength_whole hd hm hq, List.length_append]
      omega
  | fraction h =>
    cases h with
    | @leading v hv =>
      have hn := digitsLength_append hv.2 rest
      have hp := List.length_pos_iff.mpr hv.1
      have hm := mantissaLength_point (w := []) (by simp) (v ++ rest)
      rw [List.nil_append] at hm
      rw [List.cons_append, hm, hn, List.length_cons, List.length_nil]
      split <;> omega
    | @trailing v hv =>
      have hp := List.length_pos_iff.mpr hv.1
      rw [List.append_assoc, List.singleton_append, mantissaLength_point hv.2, List.length_append,
        List.length_singleton]
      split <;> omega
    | @inner u v hu hv =>
      have hn := digitsLength_append hv.2 rest
      have hp := List.length_pos_iff.mpr hu.1
      rw [List.append_assoc, List.cons_append, mantissaLength_point hu.2, hn, List.length_append,
        List.length_cons]
      split <;> omega

theorem mantissaLength_exponent {w x : Text} (hw : Mantissa w) (hx : Exponent x) (rest : Text) :
    mantissaLength (w ++ (x ++ rest)) = w.length := by
  obtain ⟨e, more, rfl, hd, hp⟩ := hx.head
  have hr : digitsLength (e :: more ++ rest) = 0 := digitsLength_of_head hd
  cases hw with
  | whole h => exact mantissaLength_whole h.2 (by simpa using hd) (by simpa using hp)
  | fraction h =>
    cases h with
    | @leading v hv =>
      have hq := List.length_pos_iff.mpr hv.1
      have hm := mantissaLength_point (w := []) (by simp) (v ++ (e :: more ++ rest))
      rw [List.nil_append] at hm
      rw [List.cons_append, hm, digitsLength_append hv.2, hr, List.length_cons, List.length_nil]
      split <;> omega
    | @trailing v hv =>
      have hq := List.length_pos_iff.mpr hv.1
      rw [List.append_assoc, List.singleton_append, mantissaLength_point hv.2, hr,
        List.length_append, List.length_singleton]
      split <;> omega
    | @inner u v hu hv =>
      have hq := List.length_pos_iff.mpr hu.1
      rw [List.append_assoc, List.cons_append, mantissaLength_point hu.2, digitsLength_append hv.2,
        hr, List.length_append, List.length_cons]
      split <;> omega

theorem mantissa_take {text : Text} (h : mantissaLength text ≠ 0) :
    mantissaLength text ≤ text.length ∧ Mantissa (text.take (mantissaLength text)) := by
  obtain ⟨w, rest, rfl, hw, hr, -⟩ := split_digits text
  by_cases hq : rest.head? = some '.'
  · obtain ⟨more, rfl⟩ := List.head?_eq_some_iff.mp hq
    obtain ⟨v, tail, rfl, hv, ht, hn⟩ := split_digits more
    rw [mantissaLength_point hw] at h ⊢
    by_cases hz : w.length = 0 ∧ digitsLength (v ++ tail) = 0
    · exact absurd (if_pos hz) h
    · rw [if_neg hz, hn]
      have hl : w ++ '.' :: (v ++ tail) = (w ++ '.' :: v) ++ tail := by simp
      have hk : w.length + 1 + v.length = (w ++ '.' :: v).length := by simp; omega
      rw [hl, hk, List.take_left']
      · refine ⟨by simp, .fraction ?_⟩
        cases w with
        | nil =>
          refine .leading ⟨?_, hv⟩
          rintro rfl
          exact hz ⟨rfl, hn⟩
        | cons c w =>
          cases v with
          | nil => exact .trailing ⟨by simp, hw⟩
          | cons d v => exact .inner ⟨by simp, hw⟩ ⟨by simp, hv⟩
      · rfl
  · rw [mantissaLength_whole hw hr hq] at h ⊢
    rw [List.take_left']
    · refine ⟨by simp, .whole ⟨?_, hw⟩⟩
      rintro rfl
      exact h rfl
    · rfl

/-! ## Numerals and names -/

theorem numberLength_append {w : Text} (hw : Numeral w) (rest : Text) :
    0 < numberLength (w ++ rest) ∧ w.length ≤ numberLength (w ++ rest) := by
  cases hw with
  | plain h =>
    have hp := List.length_pos_iff.mpr h.ne_nil
    have hm := mantissaLength_append h rest
    simp only [numberLength]
    split <;> omega
  | @scaled v x h hx =>
    have hp := List.length_pos_iff.mpr h.ne_nil
    have hm := mantissaLength_exponent h hx rest
    have he := exponentLength_append hx rest
    rw [List.append_assoc]
    simp only [numberLength, hm, List.drop_left', List.length_append]
    split <;> omega

theorem numeral_take {text : Text} (h : numberLength text ≠ 0) :
    numberLength text ≤ text.length ∧ Numeral (text.take (numberLength text)) := by
  have hm : mantissaLength text ≠ 0 := by
    intro hz
    simp [numberLength, hz] at h
  have hl : numberLength text =
      mantissaLength text + exponentLength (text.drop (mantissaLength text)) := by
    simp [numberLength, hm]
  obtain ⟨hle, hw⟩ := mantissa_take hm
  by_cases hx : exponentLength (text.drop (mantissaLength text)) = 0
  · rw [hl, hx, Nat.add_zero]
    exact ⟨hle, .plain hw⟩
  · obtain ⟨hxl, he⟩ := exponent_take hx
    rw [List.length_drop] at hxl
    rw [hl, List.take_add]
    exact ⟨by omega, .scaled hw he⟩

theorem nameLength_append {w : Text} (hw : Text.isName w = true) (rest : Text) :
    0 < nameLength (w ++ rest) ∧ w.length ≤ nameLength (w ++ rest) := by
  cases w with
  | nil => simp [Text.isName] at hw
  | cons c w =>
    simp only [Text.isName, Bool.and_eq_true, List.all_eq_true] at hw
    obtain ⟨hc, hp⟩ := hw
    rw [List.cons_append, nameLength, if_pos hc, List.takeWhile_append_of_pos hp,
      List.length_append,
      List.length_cons]
    omega

theorem name_take {text : Text} (h : nameLength text ≠ 0) :
    nameLength text ≤ text.length ∧ Text.isName (text.take (nameLength text)) = true := by
  cases text with
  | nil => simp [nameLength] at h
  | cons c rest =>
    by_cases hc : Text.isNameStart c = true
    · have hl : nameLength (c :: rest) = (rest.takeWhile Text.isNamePart).length + 1 := by
        simp [nameLength, hc]
      have hp := List.takeWhile_prefix Text.isNamePart (l := rest)
      rw [hl, List.take_succ_cons, ← List.prefix_iff_eq_take.mp hp, Text.isName, hc, Bool.true_and,
        List.all_eq_true, List.length_cons]
      exact ⟨Nat.succ_le_succ hp.length_le, fun c hc => List.mem_takeWhile_imp hc⟩
    · simp [nameLength, hc] at h

/-! ## Heads and layout -/

theorem Mantissa.head {w : Text} (hw : Mantissa w) :
    ∃ c v, w = c :: v ∧ (Text.isDigit c = true ∨ c = '.') := by
  have hd {v : Text} (hv : Digits v) : ∃ c u, v = c :: u ∧ (Text.isDigit c = true ∨ c = '.') := by
    obtain ⟨hne, hall⟩ := hv
    cases v with
    | nil => contradiction
    | cons c u => exact ⟨c, u, rfl, Or.inl (hall c List.mem_cons_self)⟩
  cases hw with
  | whole h => exact hd h
  | fraction h =>
    cases h with
    | leading _ => exact ⟨_, _, rfl, Or.inr rfl⟩
    | trailing hv =>
      obtain ⟨c, u, rfl, hc⟩ := hd hv
      exact ⟨c, _, rfl, hc⟩
    | inner hv _ =>
      obtain ⟨c, u, rfl, hc⟩ := hd hv
      exact ⟨c, _, rfl, hc⟩

theorem Numeral.head {w : Text} (hw : Numeral w) :
    ∃ c v, w = c :: v ∧ (Text.isDigit c = true ∨ c = '.') := by
  cases hw with
  | plain h => exact h.head
  | scaled h _ =>
    obtain ⟨c, v, rfl, hc⟩ := h.head
    exact ⟨c, _, rfl, hc⟩

def isNumeralPart (c : Char) : Bool :=
  Text.isDigit c || c == '.' || c == 'e' || c == 'E' || c == '+' || c == '-'

theorem Digits.parts {w : Text} (hw : Digits w) : ∀ c ∈ w, isNumeralPart c = true := by
  intro c hc
  simp [isNumeralPart, hw.2 c hc]

theorem Mantissa.parts {w : Text} (hw : Mantissa w) : ∀ c ∈ w, isNumeralPart c = true := by
  have hp : isNumeralPart '.' = true := by decide
  cases hw with
  | whole h => exact h.parts
  | fraction h =>
    cases h with
    | leading hv => exact List.forall_mem_cons.mpr ⟨hp, hv.parts⟩
    | trailing hv => exact List.forall_mem_append.mpr ⟨hv.parts, by simpa using hp⟩
    | inner hu hv =>
      exact List.forall_mem_append.mpr ⟨hu.parts, List.forall_mem_cons.mpr ⟨hp, hv.parts⟩⟩

theorem Exponent.parts {w : Text} (hw : Exponent w) : ∀ c ∈ w, isNumeralPart c = true := by
  have he {c : Char} (h : c = 'e' ∨ c = 'E') : isNumeralPart c = true := by
    rcases h with rfl | rfl <;> decide
  have hs {c : Char} (h : c = '+' ∨ c = '-') : isNumeralPart c = true := by
    rcases h with rfl | rfl <;> decide
  cases hw with
  | unsigned h hv => exact List.forall_mem_cons.mpr ⟨he h, hv.parts⟩
  | signed h h' hv =>
    exact List.forall_mem_cons.mpr ⟨he h, List.forall_mem_cons.mpr ⟨hs h', hv.parts⟩⟩

theorem Numeral.parts {w : Text} (hw : Numeral w) : ∀ c ∈ w, isNumeralPart c = true := by
  cases hw with
  | plain h => exact h.parts
  | scaled h hx => exact List.forall_mem_append.mpr ⟨h.parts, hx.parts⟩

theorem isLayout_eq_false_of_isNumeralPart {c : Char} (h : isNumeralPart c = true) :
    Blank.isLayout c = false := by
  by_contra hl
  rcases (Blank.isLayout_iff c).mp (by simpa using hl) with rfl | rfl | rfl | rfl | rfl
  all_goals exact absurd h (by decide)

theorem Spells.ne_nil {kind : Kind} {w : Text} (hw : Spells kind w) : w ≠ [] := by
  cases kind with
  | number =>
    obtain ⟨c, v, rfl, -⟩ := Numeral.head hw
    simp
  | name => rintro rfl; simp [Spells, Text.isName] at hw
  | _ => simp_all [Spells]

theorem Spells.no_layout {kind : Kind} {w : Text} (hw : Spells kind w) :
    ∀ c ∈ w, Blank.isLayout c = false := by
  cases kind with
  | number => exact fun c hc => isLayout_eq_false_of_isNumeralPart (Numeral.parts hw c hc)
  | name =>
    cases w with
    | nil => simp
    | cons c v =>
      simp only [Spells, Text.isName, Bool.and_eq_true, List.all_eq_true, Text.isNamePart,
        Bool.or_eq_true] at hw
      refine List.forall_mem_cons.mpr ⟨Blank.isLayout_eq_false_of_isNameStart hw.1, fun d hd => ?_⟩
      exact (hw.2 d hd).elim Blank.isLayout_eq_false_of_isNameStart
        Blank.isLayout_eq_false_of_isDigit
  | _ =>
    simp only [Spells] at hw
    subst hw
    exact List.forall_mem_singleton.mpr (by decide)

/-! ## The longest token -/

theorem numberLength_eq_zero {c : Char} {rest : Text} (hd : Text.isDigit c = false)
    (hp : c ≠ '.') : numberLength (c :: rest) = 0 := by
  by_contra h
  obtain ⟨d, v, hv, hc⟩ := (numeral_take h).2.head
  obtain ⟨n, hn⟩ := Nat.exists_eq_succ_of_ne_zero h
  rw [hn, List.take_succ_cons, List.cons.injEq] at hv
  obtain ⟨rfl, -⟩ := hv
  rcases hc with hc | hc
  · simp [hd] at hc
  · exact hp hc

theorem nameLength_eq_zero {c : Char} {rest : Text} (hc : Text.isNameStart c = false) :
    nameLength (c :: rest) = 0 := by
  simp [nameLength, hc]

theorem longest?_mark {c : Char} {kind : Kind} (hc : mark? c = some kind) (rest : Text) :
    longest? (c :: rest) = some (kind, 1) := by
  have h : Text.isDigit c = false ∧ c ≠ '.' ∧ Text.isNameStart c = false := by
    unfold mark? at hc
    split at hc
    all_goals first | decide | contradiction
  simp [longest?, numberLength_eq_zero h.1 h.2.1, nameLength_eq_zero h.2.2, hc]

/-- A spelling at the start of a text is found, unless a longer one of its kind is. -/
theorem longest?_append {kind : Kind} {w : Text} (hw : Spells kind w) (rest : Text) :
    ∃ n, longest? (w ++ rest) = some (kind, n) ∧ w.length ≤ n := by
  cases kind with
  | number =>
    obtain ⟨hp, hle⟩ := numberLength_append hw rest
    exact ⟨_, by simp [longest?, hp], hle⟩
  | name =>
    obtain ⟨hp, hle⟩ := nameLength_append hw rest
    have hz : numberLength (w ++ rest) = 0 := by
      cases w with
      | nil => simp [Spells, Text.isName] at hw
      | cons c v =>
        simp only [Spells, Text.isName, Bool.and_eq_true] at hw
        apply numberLength_eq_zero (Text.isDigit_eq_false_of_isNameStart hw.1)
        rintro rfl
        exact absurd hw.1 (by decide)
    exact ⟨_, by simp [longest?, hz, hp], hle⟩
  | _ =>
    simp only [Spells] at hw
    subst hw
    exact ⟨1, longest?_mark rfl rest, Nat.le_refl 1⟩

theorem spells_of_mark {c : Char} {kind : Kind} (hc : mark? c = some kind) : Spells kind [c] := by
  unfold mark? at hc
  split at hc
  all_goals first | contradiction | (cases hc; rfl)

theorem longest?_take {text : Text} {kind : Kind} {n : Nat}
    (h : longest? text = some (kind, n)) : n ≤ text.length ∧ Spells kind (text.take n) := by
  simp only [longest?] at h
  split at h
  · next hn =>
    cases h
    exact numeral_take (by omega)
  · split at h
    · next hn =>
      cases h
      exact name_take (by omega)
    · cases text with
      | nil => simp at h
      | cons c rest =>
        obtain ⟨k, hk, hp⟩ := Option.map_eq_some_iff.mp h
        cases hp
        exact ⟨by simp, spells_of_mark hk⟩

/-- The longest token at the start of a text is its longest spelling. -/
theorem munch_iff {kind : Kind} {w text : Text} :
    Munch kind w text ↔ longest? text = some (kind, w.length) ∧ w = text.take w.length := by
  constructor
  · rintro ⟨⟨rest, rfl⟩, hw, hmax⟩
    obtain ⟨n, hn, hle⟩ := longest?_append hw rest
    obtain ⟨hl, hs⟩ := longest?_take hn
    have hlen := hmax kind _ hs (List.take_prefix n _)
    rw [List.length_take, Nat.min_eq_left hl] at hlen
    rw [hn, Nat.le_antisymm hlen hle]
    exact ⟨rfl, by simp⟩
  · rintro ⟨hn, hw⟩
    obtain ⟨hl, hs⟩ := longest?_take hn
    refine ⟨hw ▸ List.take_prefix _ _, hw ▸ hs, ?_⟩
    rintro other v hv ⟨rest, rfl⟩
    obtain ⟨m, hm, hle⟩ := longest?_append hv rest
    rw [hn, Option.some.injEq, Prod.mk.injEq] at hm
    omega

theorem munch_mark {c : Char} {kind : Kind} (hc : mark? c = some kind) (rest : Text) :
    Munch kind [c] (c :: rest) := munch_iff.mpr ⟨longest?_mark hc rest, rfl⟩

theorem longest?_eq_none_iff {text : Text} :
    longest? text = none ↔ ∀ kind w, Spells kind w → ¬w <+: text := by
  constructor
  · rintro h kind w hw ⟨rest, rfl⟩
    obtain ⟨n, hn, -⟩ := longest?_append hw rest
    rw [h] at hn
    contradiction
  · intro h
    cases hl : longest? text with
    | none => rfl
    | some p =>
      obtain ⟨kind, n⟩ := p
      exact absurd (List.take_prefix n text) (h kind _ (longest?_take hl).2)

end Reckoner.Token
