import Reckoner.Toml.Scalar

/-! # What the readers of a TOML document leave over

A reader takes characters from the front of a text, so what it leaves over is an end of the text.
Of the simple values only a decimal number without fraction and exponent is an integer that does
not start with a zero, and it is a sign with digits and underscores after it.
-/
namespace Reckoner.Toml
variable {α β γ : Type} {text rest : Text}

/-- What is left over, if something was read, is an end of the text. -/
def Leaves (left : β → Text) (text : Text) (read : Option β) : Prop :=
  ∀ b ∈ read, left b <:+ text

namespace Leaves
variable {left : β → Text} {left' : γ → Text} {read : Option β}

theorem none : Leaves left text none := nofun

theorem some {b : β} (h : left b <:+ text) : Leaves left text (some b) := by
  rintro _ ⟨⟩
  exact h

theorem mono (hr : rest <:+ text) (h : Leaves left rest read) : Leaves left text read :=
  fun b hb => (h b hb).trans hr

theorem cons {c : Char} (h : Leaves left rest read) : Leaves left (c :: rest) read :=
  h.mono (List.suffix_cons c rest)

theorem bind {f : β → Option γ} (h : Leaves left text read)
    (hf : ∀ b, Leaves left' (left b) (f b)) : Leaves left' text (read.bind f) := by
  intro c hc
  obtain ⟨b, hb, hc⟩ := Option.bind_eq_some_iff.mp hc
  exact (hf b c hc).trans (h b hb)

theorem skip {f : β → Option γ} (hf : ∀ b, Leaves left' text (f b)) :
    Leaves left' text (read.bind f) := by
  intro c hc
  obtain ⟨b, -, hc⟩ := Option.bind_eq_some_iff.mp hc
  exact hf b c hc

theorem map (f : β → γ) (h : Leaves left text read) (hf : ∀ b, left' (f b) <:+ left b) :
    Leaves left' text (read.map f) := by
  rw [Option.map_eq_bind]
  exact h.bind fun b => .some (hf b)

theorem keep {read : Option (α × Text)} (f : α × Text → β) (h : Leaves Prod.snd text read) :
    Leaves Prod.snd text (read.map fun r => (f r, r.2)) := h.map _ fun _ => List.suffix_refl _

theorem or {other : Option β} (h : Leaves left text read) (ho : Leaves left text other) :
    Leaves left text (read.or other) := by
  intro b hb
  rcases Option.or_eq_some_iff.mp hb with hb | ⟨-, hb⟩
  · exact h b hb
  · exact ho b hb

theorem getD {read : Option Text} (h : Leaves id text read) : read.getD text <:+ text := by
  cases read with
  | none => exact List.suffix_refl _
  | some rest => exact h rest rfl

end Leaves

theorem skipBlanks_suffix (text : Text) : skipBlanks text <:+ text := List.dropWhile_suffix _

theorem skipComment?_leaves (text : Text) : Leaves id text (skipComment? text) := by
  unfold skipComment?
  split
  · split
    · exact .none
    · exact .some ((List.dropWhile_suffix _).trans (List.suffix_cons _ _))
  · exact .some (List.suffix_refl _)

theorem dropStart?_leaves (start text : Text) : Leaves id text (Text.dropStart? start text) := by
  unfold Text.dropStart?
  split
  · exact .some (List.drop_suffix _ _)
  · exact .none

theorem mark_leaves (c : Char) (text : Text) : Leaves id text (mark c text) := by
  unfold mark
  split
  · split
    · exact .some (List.suffix_cons _ _)
    · exact .none
  · exact .none

/-! ## Strings -/

theorem hexChar_leaves (count : Nat) (text : Text) :
    Leaves Prod.snd text (hexChar count text) := by
  simp only [hexChar]
  split
  · exact .some (List.drop_suffix _ _)
  · exact .none

theorem escape_leaves (multiline : Bool) (text : Text) :
    Leaves Prod.snd text (escape multiline text) := by
  unfold escape
  split
  iterate 7 exact .some (List.suffix_cons _ _)
  · exact (hexChar_leaves 4 _).cons
  · exact (hexChar_leaves 8 _).cons
  · next c more _ _ _ _ _ _ _ _ _ =>
    split
    · split
      · next after h =>
        have hs := skipBlanks_suffix (c :: more)
        rw [h] at hs
        exact .some ((List.dropWhile_suffix _).trans ((List.suffix_cons _ _).trans hs))
      · exact .some (List.nil_suffix)
      · exact .none
    · exact .none
  · exact .none

theorem basicBody_leaves (multiline : Bool) (steps : Nat) (text : Text) :
    Leaves Prod.snd text (basicBody multiline steps text) := by
  induction steps generalizing text with
  | zero => exact .none
  | succ steps ih =>
    cases text with
    | nil => exact .none
    | cons c rest =>
      have honward (before : Text) (text : Text) : Leaves Prod.snd text
          ((basicBody multiline steps text).map fun r => (before ++ r.1, r.2)) :=
        (ih text).keep _
      simp only [basicBody]
      split
      · split
        · exact .some (List.suffix_cons _ _)
        · split
          · exact .some ((List.drop_suffix _ _).trans (List.suffix_cons _ _))
          · exact (honward _ rest).cons
      · split
        · exact ((escape_leaves multiline rest).bind fun r => honward r.1 r.2).cons
        · split
          · exact .none
          · exact (honward _ rest).cons

theorem basic_leaves (multiline : Bool) (text : Text) :
    Leaves Prod.snd text (basic multiline text) := basicBody_leaves multiline _ text

theorem literal_leaves (text : Text) : Leaves Prod.snd text (literal text) := by
  have hs : text.dropWhile (· != '\'') <:+ text := List.dropWhile_suffix _
  simp only [literal]
  split
  · next h =>
    rw [h] at hs
    split
    · exact .none
    · exact .some ((List.suffix_cons _ _).trans hs)
  · exact .none

theorem literalLines_leaves (text : Text) : Leaves Prod.snd text (literalLines text) := by
  induction text with
  | nil => exact .none
  | cons c rest ih =>
    rw [literalLines]
    split
    · exact .some (List.drop_suffix _ _)
    · split
      · exact .none
      · exact (ih.keep _).cons

theorem extraQuotes_suffix (quote : Char) (read : Text × Text) :
    (extraQuotes quote read).2 <:+ read.2 := by
  unfold extraQuotes
  split
  · next h =>
    rw [h]
    split
    · exact (List.suffix_cons _ _).trans (List.suffix_cons _ _)
    · split
      · exact List.suffix_cons _ _
      · exact h ▸ List.suffix_refl _
  · next h =>
    rw [h]
    split
    · exact List.nil_suffix
    · exact h ▸ List.suffix_refl _
  · exact List.suffix_refl _

theorem dropFirstLineEnd_suffix (text : Text) : dropFirstLineEnd text <:+ text := by
  unfold dropFirstLineEnd
  split
  · exact List.suffix_cons _ _
  · exact List.suffix_refl _

theorem string_leaves (text : Text) : Leaves Prod.snd text (string text) := by
  unfold string
  split
  · next h =>
    have hs := (dropFirstLineEnd_suffix _).trans (dropStart?_leaves _ _ _ h)
    exact ((basic_leaves true _).map _ fun _ => extraQuotes_suffix _ _).mono hs
  · split
    · next h =>
      have hs := (dropFirstLineEnd_suffix _).trans (dropStart?_leaves _ _ _ h)
      exact ((literalLines_leaves _).map _ fun _ => extraQuotes_suffix _ _).mono hs
    · split
      · exact (basic_leaves false _).cons
      · exact (literal_leaves _).cons
      · exact .none

/-! ## Keys -/

theorem keyPart_leaves (text : Text) : Leaves Prod.snd text (keyPart text) := by
  unfold keyPart
  split
  · exact (basic_leaves false _).cons
  · exact (literal_leaves _).cons
  · simp only
    split
    · exact .none
    · exact .some (List.dropWhile_suffix _)

theorem keyParts_leaves (count : Nat) (text : Text) :
    Leaves Prod.snd text (keyParts count text) := by
  induction count generalizing text with
  | zero => exact .none
  | succ count ih =>
    rw [keyParts]
    split
    · exact .none
    · next part rest h =>
      have hr : skipBlanks rest <:+ text :=
        (skipBlanks_suffix rest).trans (keyPart_leaves text _ h)
      split
      · next more hd =>
        rw [hd] at hr
        exact ((ih _).keep _).mono
          ((skipBlanks_suffix more).trans ((List.suffix_cons _ _).trans hr))
      · exact .some hr

theorem key_leaves (text : Text) : Leaves Prod.snd text (key text) := keyParts_leaves _ text

/-! ## Numbers -/

def IsNumeral (isDigit : Char → Bool) (text : Text) : Prop :=
  ∀ c ∈ text, isDigit c = true ∨ c = '_'

theorem groupedFrom_front (isDigit : Char → Bool) (text : Text) :
    ∃ front, IsNumeral isDigit front ∧ text = front ++ (groupedFrom isDigit text).2 := by
  fun_induction groupedFrom isDigit text with
  | case1 c rest h r ih =>
    obtain ⟨front, hf, ht⟩ := ih
    refine ⟨'_' :: c :: front, ?_, congrArg ('_' :: c :: ·) ht⟩
    exact List.forall_mem_cons.mpr ⟨.inr rfl, List.forall_mem_cons.mpr ⟨.inl h, hf⟩⟩
  | case3 c rest _ h r ih =>
    obtain ⟨front, hf, ht⟩ := ih
    exact ⟨c :: front, List.forall_mem_cons.mpr ⟨.inl h, hf⟩, congrArg (c :: ·) ht⟩
  | case2 | case4 | case5 => exact ⟨[], List.forall_mem_nil _, rfl⟩

theorem grouped_front {isDigit : Char → Bool} {digits : Text}
    (h : grouped isDigit text = some (digits, rest)) :
    ∃ front, IsNumeral isDigit front ∧ text = front ++ rest := by
  unfold grouped at h
  split at h
  · next c more =>
    split at h
    · next hc =>
      cases h
      obtain ⟨front, hf, ht⟩ := groupedFrom_front isDigit more
      exact ⟨c :: front, List.forall_mem_cons.mpr ⟨.inl hc, hf⟩, congrArg (c :: ·) ht⟩
    · cases h
  · cases h

theorem grouped_leaves (isDigit : Char → Bool) (text : Text) :
    Leaves Prod.snd text (grouped isDigit text) := by
  intro _ h
  obtain ⟨front, -, ht⟩ := grouped_front h
  exact ⟨front, ht.symm⟩

theorem based_leaves (text : Text) : Leaves Prod.snd text (based text) := by
  simp only [based]
  split
  iterate 3 exact ((grouped_leaves _ _).keep _).cons
  exact .none

theorem wholePart_front {digits : Text} (h : wholePart text = some (digits, rest)) :
    ∃ front, IsNumeral Text.isDigit front ∧ text = front ++ rest := by
  unfold wholePart at h
  split at h
  · cases h
    exact ⟨['0'], List.forall_mem_singleton.mpr (.inl rfl), rfl⟩
  · exact grouped_front h

theorem fractionPart_suffix (text : Text) : (fractionPart text).2 <:+ text := by
  unfold fractionPart
  split
  · next more =>
    split
    · next h => exact (grouped_leaves _ _ _ h).trans (List.suffix_cons _ _)
    · exact List.suffix_refl _
  · exact List.suffix_refl _

theorem exponentPart_suffix (text : Text) : (exponentPart text).2 <:+ text := by
  unfold exponentPart
  split
  · simp only
    split
    · split
      · next h =>
        exact (grouped_leaves _ _ _ h).trans ((List.drop_suffix _ _).trans (List.suffix_cons _ _))
      · exact List.suffix_refl _
    · exact List.suffix_refl _
  · exact List.nil_suffix

theorem fractionPart_of_isEmpty (h : (fractionPart text).1.isEmpty = true) :
    (fractionPart text).2 = text := by
  unfold fractionPart at h ⊢
  split
  · split
    · next hg =>
      simp only [hg] at h
      cases h
    · rfl
  · rfl

theorem exponentPart_of_isEmpty (h : (exponentPart text).1.isEmpty = true) :
    (exponentPart text).2 = text := by
  unfold exponentPart at h ⊢
  split
  · simp only at h ⊢
    split
    · next hc =>
      simp only [if_pos hc] at h
      split
      · next hg =>
        rw [hg] at h
        cases h
      · rfl
    · rfl
  · rfl

theorem takeSign_eq (text : Text) : ∃ sign, text = sign ++ (Decimal.takeSign text).2 ∧
    sign.countP Text.isDigit = 0 := by
  unfold Decimal.takeSign
  split
  · exact ⟨['+'], rfl, rfl⟩
  · exact ⟨['-'], rfl, rfl⟩
  · exact ⟨[], rfl, rfl⟩

theorem decimal_leaves (text : Text) : Leaves Prod.snd text (decimal text) := by
  obtain ⟨sign, hs, -⟩ := takeSign_eq text
  have hsigned : (Decimal.takeSign text).2 <:+ text := ⟨sign, hs.symm⟩
  have hwhole : Leaves Prod.snd text (wholePart (Decimal.takeSign text).2) := by
    intro _ h
    obtain ⟨front, -, ht⟩ := wholePart_front h
    exact .trans ⟨front, ht.symm⟩ hsigned
  refine hwhole.bind fun ⟨whole, rest⟩ => ?_
  have hr : (exponentPart (fractionPart rest).2).2 <:+ rest :=
    (exponentPart_suffix _).trans (fractionPart_suffix rest)
  simp only
  split
  · exact .some hr
  · rw [Option.map_eq_bind]
    exact .skip fun _ => .some hr

theorem decimal_integer {n : Int} (h : decimal text = some (.integer n, rest)) :
    ∃ sign numeral, text = sign ++ numeral ++ rest ∧ sign.countP Text.isDigit = 0 ∧
      IsNumeral Text.isDigit numeral := by
  obtain ⟨sign, hs, hc⟩ := takeSign_eq text
  simp only [decimal] at h
  obtain ⟨⟨whole, more⟩, hw, h⟩ := Option.bind_eq_some_iff.mp h
  obtain ⟨numeral, hn, ht⟩ := wholePart_front hw
  simp only at h
  split at h
  · next he =>
    obtain ⟨hf, he⟩ := Bool.and_eq_true_iff.mp he
    rw [exponentPart_of_isEmpty he, fractionPart_of_isEmpty hf] at h
    cases h
    exact ⟨sign, numeral, by rw [List.append_assoc, ← ht, ← hs], hc, hn⟩
  · obtain ⟨_, _, h⟩ := Option.map_eq_some_iff.mp h
    cases h

theorem named_real {datum : Datum} (h : named text = some (datum, rest)) :
    ∃ x, datum = .real x ∧ rest <:+ text := by
  obtain ⟨sign, hs, -⟩ := takeSign_eq text
  have hsigned : (Decimal.takeSign text).2 <:+ text := ⟨sign, hs.symm⟩
  simp only [named] at h
  split at h
  · next hd =>
    cases h
    exact ⟨_, rfl, (dropStart?_leaves _ _ _ hd).trans hsigned⟩
  · next hd =>
    cases h
    exact ⟨_, rfl, (dropStart?_leaves _ _ _ hd).trans hsigned⟩
  · cases h

theorem number_leaves (text : Text) : Leaves Prod.snd text (number text) := by
  have hother : Leaves Prod.snd text ((decimal text).or (named text)) :=
    (decimal_leaves text).or fun _ h => (named_real h).choose_spec.2
  unfold number
  split
  · exact ((based_leaves _).keep _).cons.or hother
  · exact hother

theorem number_integer {n : Int} (h : number text = some (.integer n, rest))
    (hz : text.head? ≠ some '0') : decimal text = some (.integer n, rest) := by
  simp only [number] at h
  split at h
  · exact absurd rfl hz
  · rcases Option.or_eq_some_iff.mp h with h | ⟨-, h⟩
    · exact h
    · obtain ⟨x, hx, -⟩ := named_real h
      cases hx

/-! ## Moments and other values -/

theorem fixed_leaves (count : Nat) (text : Text) : Leaves Prod.snd text (fixed count text) := by
  simp only [fixed]
  split
  · exact .some (List.drop_suffix _ _)
  · exact .none

theorem field_leaves (low high : Nat) (text : Text) :
    Leaves Prod.snd text (field low high text) := by
  refine (fixed_leaves 2 text).bind fun r => ?_
  split
  · exact .some (List.suffix_refl _)
  · exact .none

theorem skipFraction_suffix (text : Text) : skipFraction text <:+ text := by
  unfold skipFraction
  split
  · split
    · exact (List.dropWhile_suffix _).trans ((List.suffix_cons _ _).trans (List.suffix_cons _ _))
    · exact List.suffix_refl _
  · exact List.suffix_refl _

theorem time_leaves (text : Text) : Leaves id text (time text) := by
  refine (field_leaves 0 23 text).bind fun hour => ?_
  refine (mark_leaves ':' hour.2).bind fun rest => ?_
  refine (field_leaves 0 59 rest).bind fun minute => ?_
  refine (mark_leaves ':' minute.2).bind fun rest => ?_
  refine (field_leaves 0 59 rest).bind fun second => ?_
  exact .some (skipFraction_suffix second.2)

theorem skipOffset_suffix (text : Text) : skipOffset text <:+ text := by
  unfold skipOffset
  split
  · exact List.suffix_cons _ _
  · exact List.suffix_cons _ _
  · next c rest _ _ =>
    split
    · refine Leaves.getD (Leaves.cons ?_)
      refine (field_leaves 0 23 rest).bind fun hour => ?_
      refine (mark_leaves ':' hour.2).bind fun more => ?_
      exact (field_leaves 0 59 more).bind fun minute => .some (List.suffix_refl _)
    · exact List.suffix_refl _
  · exact List.suffix_refl _

theorem dateFields_leaves (text : Text) : Leaves Prod.snd text (dateFields text) := by
  refine (fixed_leaves 4 text).bind fun year => ?_
  refine (mark_leaves '-' year.2).bind fun rest => ?_
  refine (field_leaves 1 12 rest).bind fun month => ?_
  refine (mark_leaves '-' month.2).bind fun rest => ?_
  exact (field_leaves 1 31 rest).bind fun day => .some (List.suffix_refl _)

theorem afterDate_suffix (text : Text) : afterDate text <:+ text := by
  unfold afterDate
  split
  · split
    · split
      · next h =>
        exact (skipOffset_suffix _).trans ((time_leaves _ _ h).trans (List.suffix_cons _ _))
      · exact List.suffix_refl _
    · exact List.suffix_refl _
  · exact List.nil_suffix

theorem numberOrMoment_leaves (text : Text) : Leaves Prod.snd text (numberOrMoment text) := by
  unfold numberOrMoment
  split
  · next h =>
    have hr := dateFields_leaves text _ h
    split
    · exact .some ((afterDate_suffix _).trans hr)
    · exact .none
  · split
    · next h => exact .some (time_leaves text _ h)
    · exact number_leaves text

theorem truth_leaves (text : Text) : Leaves Prod.snd text (truth text) := by
  unfold truth
  split
  · next h => exact .some (dropStart?_leaves _ _ _ h)
  · next h => exact .some (dropStart?_leaves _ _ _ h)
  · exact .none

theorem scalar_leaves (text : Text) : Leaves Prod.snd text (scalar text) := by
  unfold scalar
  split
  · exact (string_leaves _).keep _
  · exact (string_leaves _).keep _
  · exact (truth_leaves text).or (numberOrMoment_leaves text)

/-- Of the simple values only decimal numbers are integers without a zero at the start. -/
theorem scalar_integer {n : Int} (h : scalar text = some (.integer n, rest))
    (hz : text.head? ≠ some '0') : decimal text = some (.integer n, rest) := by
  simp only [scalar] at h
  split at h
  · obtain ⟨_, _, h⟩ := Option.map_eq_some_iff.mp h
    cases h
  · obtain ⟨_, _, h⟩ := Option.map_eq_some_iff.mp h
    cases h
  · rcases Option.or_eq_some_iff.mp h with h | ⟨-, h⟩
    · simp only [truth] at h
      split at h <;> cases h
    · simp only [numberOrMoment] at h
      split at h
      · split at h <;> cases h
      · split at h
        · cases h
        · exact number_integer h hz

end Reckoner.Toml
