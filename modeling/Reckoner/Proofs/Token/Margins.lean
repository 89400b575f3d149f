import Reckoner.Proofs.Token.Reads

/-! # Around the tokens

No blank stands in a token, and nothing but layout outside of the tokens: before the first, after
the last, or anywhere if there are none.
-/
namespace Reckoner

theorem Blank.isSpace_eq_false {c : Char} (hl : 32 < c.toNat) (hu : c.toNat < 127) :
    Blank.isSpace c = false := by
  simp only [Blank.isSpace, Blank.isWhite, Bool.or_eq_false_iff, Bool.and_eq_false_iff,
    decide_eq_false_iff_not, beq_eq_false_iff_ne]
  omega

theorem Text.isNamePart_of_isName {w : Text} (hw : Text.isName w = true) :
    ∀ c ∈ w, Text.isNamePart c = true := by
  cases w with
  | nil => exact List.forall_mem_nil _
  | cons c v =>
    simp only [Text.isName, Bool.and_eq_true, List.all_eq_true] at hw
    exact List.forall_mem_cons.mpr ⟨by rw [Text.isNamePart, hw.1, Bool.true_or], hw.2⟩

namespace Token

theorem isNumeralPart_range {c : Char} (h : isNumeralPart c = true) :
    32 < c.toNat ∧ c.toNat < 127 := by
  simp only [isNumeralPart, Bool.or_eq_true, beq_iff_eq, Text.isDigit_iff] at h
  rcases h with ((((h | rfl) | rfl) | rfl) | rfl) | rfl
  · omega
  all_goals decide

theorem isNamePart_range {c : Char} (h : Text.isNamePart c = true) :
    32 < c.toNat ∧ c.toNat < 127 := by
  simp only [Text.isNamePart, Bool.or_eq_true, Text.isNameStart_iff, Text.isDigit_iff] at h
  omega

/-- Every character of a token is printed, and one of the first few. -/
theorem Spells.range {kind : Kind} {w : Text} (hw : Spells kind w) :
    ∀ c ∈ w, 32 < c.toNat ∧ c.toNat < 127 := by
  cases kind with
  | number => exact fun c hc => isNumeralPart_range (Numeral.parts hw c hc)
  | name => exact fun c hc => isNamePart_range (Text.isNamePart_of_isName hw c hc)
  | _ =>
    simp only [Spells] at hw
    subst hw
    exact List.forall_mem_singleton.mpr (by decide)

theorem Spells.no_space {kind : Kind} {w : Text} (hw : Spells kind w) :
    ∀ c ∈ w, Blank.isSpace c = false := by
  intro c hc
  obtain ⟨hl, hu⟩ := hw.range c hc
  exact Blank.isSpace_eq_false hl hu

variable {offset last : Nat} {text rest : Text} {t : Token} {tokens : List Token}

theorem Reads.no_space (h : Reads offset text tokens last rest) (ht : t ∈ tokens) {i : Nat}
    (hs : t.start ≤ i) (he : i < t.stop) : ∀ c ∈ text[i - offset]?, Blank.isSpace c = false := by
  obtain ⟨hw, hle, -, heq⟩ := h.mem ht
  intro c hc
  have hi : t.text[i - t.start]? = text[i - offset]? := by
    rw [heq, List.getElem?_take_of_lt (by rw [stop_eq] at he; omega), List.getElem?_drop]
    congr 1
    omega
  rw [← hi] at hc
  exact hw.no_space c (List.mem_of_getElem? hc)

theorem Reads.layout_of_nil (h : Reads offset text [] last []) :
    ∀ c ∈ text, Blank.isLayout c = true := by
  generalize hn : ([] : List Token) = none at h
  generalize hr : ([] : Text) = rest at h
  induction h with
  | stop => rw [← hr]; exact List.forall_mem_nil _
  | layout hc _ ih => exact List.forall_mem_cons.mpr ⟨hc, ih hn hr⟩
  | token => cases hn

theorem Reads.layout_before (h : Reads offset text (t :: tokens) last rest) :
    ∀ c ∈ text.take (t.start - offset), Blank.isLayout c = true := by
  generalize ht : t :: tokens = all at h
  induction h with
  | stop => cases ht
  | @layout offset last c text rest all hc hr ih =>
    subst ht
    have hle := hr.skip.1
    have he : t.start - offset = t.start - (offset + 1) + 1 := by omega
    rw [he, List.take_succ_cons]
    exact List.forall_mem_cons.mpr ⟨hc, ih rfl⟩
  | token =>
    cases ht
    simp

theorem Reads.layout_after (h : Reads offset text tokens last []) :
    ∀ c ∈ text.drop (endOf offset tokens - offset), Blank.isLayout c = true := by
  rw [← List.append_nil tokens] at h
  obtain ⟨middle, hb, ha⟩ := h.split
  rw [← hb.drop.2.2]
  exact ha.layout_of_nil

/-- What is read as tokens and layout has no character outside of the first few. -/
theorem Reads.ascii (h : Reads offset text tokens last rest)
    (hr : ∀ c ∈ rest, c.toNat < 0x80) : ∀ c ∈ text, c.toNat < 0x80 := by
  induction h with
  | stop => exact hr
  | @layout offset last c text rest tokens hc _ ih =>
    have hn : c.toNat < 0x80 := by
      simp only [Blank.isLayout, Bool.or_eq_true, beq_iff_eq] at hc
      rcases hc with (((rfl | rfl) | rfl) | rfl) | rfl <;> decide
    exact List.forall_mem_cons.mpr ⟨hn, ih hr⟩
  | @token offset last kind w text rest tokens hw _ ih =>
    intro c hc
    rw [← List.take_append_drop w.length text, ← List.prefix_iff_eq_take.mp hw.starts,
      List.mem_append] at hc
    rcases hc with hc | hc
    · exact Nat.lt_succ_of_lt (hw.spells.range c hc).2
    · exact ih hr c hc

/-! ## After a token -/

/-- Nothing that could go on with a number or a name. -/
def Ends (rest : Text) : Prop :=
  ∀ c ∈ rest.head?, isNumeralPart c = false ∧ Text.isNamePart c = false

theorem ends_nil : Ends [] := nofun

theorem ends_cons {c : Char} (h : isNumeralPart c = false ∧ Text.isNamePart c = false)
    (rest : Text) : Ends (c :: rest) := by
  intro d hd
  cases hd
  exact h

theorem Spells.length_le {kind : Kind} {v : Text} (hv : Spells kind v) {c : Char} (hc : c ∈ v)
    (h : isNumeralPart c = false ∧ Text.isNamePart c = false) : v.length ≤ 1 := by
  cases kind with
  | number =>
    have hp := Numeral.parts hv c hc
    rw [h.1] at hp
    cases hp
  | name =>
    have hp := Text.isNamePart_of_isName hv c hc
    rw [h.2] at hp
    cases hp
  | _ =>
    simp only [Spells] at hv
    subst hv
    exact Nat.le_refl 1

theorem Munch.before_ends {kind : Kind} {w text rest : Text} (hw : Munch kind w text)
    (hr : Ends rest) : Munch kind w (text ++ rest) := by
  refine ⟨hw.starts.trans (List.prefix_append _ _), hw.spells, fun other v hv hp => ?_⟩
  by_cases hle : v.length ≤ text.length
  · exact hw.longest other v hv
      (List.prefix_of_prefix_length_le hp (List.prefix_append _ _) hle)
  · -- a longer spelling has the first character of the rest in it, so it is a single mark
    cases rest with
    | nil =>
      rw [List.append_nil] at hp
      exact absurd hp.length_le hle
    | cons c more =>
      have hpre : text ++ [c] <+: v := List.prefix_of_prefix_length_le (by simp) hp
        (by simpa using by omega)
      have hone := hv.length_le (hpre.subset (by simp)) (hr c rfl)
      have hpos := List.length_pos_iff.mpr hw.spells.ne_nil
      have hlen := hw.starts.length_le
      omega

theorem munch_append {kind : Kind} {w rest : Text} (hw : Spells kind w) (hr : Ends rest) :
    Munch kind w (w ++ rest) := by
  have h : Munch kind w w := ⟨List.prefix_rfl, hw, fun _ _ _ hp => hp.length_le⟩
  exact h.before_ends hr

theorem reads_token {kind : Kind} {w rest : Text} (hw : Spells kind w) (hr : Ends rest)
    (offset : Nat) : Reads offset (w ++ rest) [⟨kind, w, offset⟩] (offset + w.length) rest := by
  have hd : (w ++ rest).drop w.length = rest := List.drop_left
  exact .token (munch_append hw hr) (by rw [hd]; exact .stop _ _)

theorem reads_mark {c : Char} {kind : Kind} (hc : mark? c = some kind) (rest : Text)
    (offset : Nat) : Reads offset (c :: rest) [⟨kind, [c], offset⟩] (offset + 1) rest :=
  .token (munch_mark hc rest) (.stop _ _)

end Token

end Reckoner
