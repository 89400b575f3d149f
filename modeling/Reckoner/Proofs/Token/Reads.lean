import Mathlib.Data.List.Basic
import Reckoner.Proofs.Token.Spelling

/-! # Sources as tokens and layout

A source is read when it is cut into longest tokens with layout between them. `Reads` says so for
any part of a source and leaves a rest. The scan of a source gives the only tokens it can be read
as, and stops exactly where neither layout nor a token stands. Tokens keep their order, stay inside
the source, and can be read again from any cut that they fill.
-/
namespace Reckoner.Token

/-- From an offset on, layout and longest tokens stand up to a later offset, where a rest starts. -/
inductive Reads : Nat → Text → List Token → Nat → Text → Prop
  | stop (offset : Nat) (text : Text) : Reads offset text [] offset text
  | layout {offset last : Nat} {c : Char} {text rest : Text} {tokens : List Token}
      (hc : Blank.isLayout c = true) (h : Reads (offset + 1) text tokens last rest) :
      Reads offset (c :: text) tokens last rest
  | token {offset last : Nat} {kind : Kind} {w text rest : Text} {tokens : List Token}
      (hw : Munch kind w text)
      (h : Reads (offset + w.length) (text.drop w.length) tokens last rest) :
      Reads offset text (⟨kind, w, offset⟩ :: tokens) last rest

/-- The whole source is read as these tokens. -/
def Covers (source : Text) (tokens : List Token) : Prop :=
  Reads 0 source tokens source.length []

/-- A rest that starts with neither layout nor any token. -/
def Stuck (rest : Text) : Prop :=
  (∃ c more, rest = c :: more ∧ Blank.isLayout c = false) ∧
    ∀ kind w, Spells kind w → ¬w <+: rest

/-! ## The scan -/

theorem scanFrom_pass (offset n : Nat) {text : Text} (h : n ≤ text.length) :
    scanFrom offset n text = scanFrom (offset + n) 0 (text.drop n) := by
  induction n generalizing offset text with
  | zero => rfl
  | succ n ih =>
    cases text with
    | nil => simp at h
    | cons c rest =>
      rw [scanFrom, ih (offset + 1) (Nat.le_of_succ_le_succ h), List.drop_succ_cons]
      congr 1
      omega

theorem scanFrom_layout {c : Char} (hc : Blank.isLayout c = true) (offset : Nat) (text : Text) :
    scanFrom offset 0 (c :: text) = scanFrom (offset + 1) 0 text := by
  rw [scanFrom, if_pos hc]

theorem scanFrom_token {kind : Kind} {w text : Text} (hw : Munch kind w text) (offset : Nat) :
    scanFrom offset 0 text =
      (scanFrom (offset + w.length) 0 (text.drop w.length)).push ⟨kind, w, offset⟩ := by
  obtain ⟨hl, ht⟩ := munch_iff.mp hw
  have hle := hw.starts.length_le
  cases w with
  | nil => exact absurd rfl hw.spells.ne_nil
  | cons d v =>
    cases text with
    | nil => simp at hle
    | cons c rest =>
      obtain ⟨rfl, -⟩ := List.cons.inj ht
      have hc := hw.spells.no_layout d List.mem_cons_self
      have hp : v.length ≤ rest.length := Nat.le_of_succ_le_succ hle
      rw [scanFrom, hc, if_neg Bool.false_ne_true, hl]
      change (scanFrom (offset + 1) v.length rest).push
        ⟨kind, (d :: rest).take (d :: v).length, offset⟩ = _
      rw [← ht, scanFrom_pass _ _ hp, List.length_cons, List.drop_succ_cons, Nat.add_assoc,
        Nat.add_comm 1]

theorem scanFrom_stuck {rest : Text} (h : Stuck rest) (offset : Nat) :
    scanFrom offset 0 rest = ⟨[], some offset⟩ := by
  obtain ⟨⟨c, more, rfl, hc⟩, hw⟩ := h
  have hl := longest?_eq_none_iff.mpr hw
  rw [scanFrom, hc, if_neg Bool.false_ne_true, hl]

/-- What has been read is the start of the scan. -/
theorem Reads.scanFrom_eq {offset last : Nat} {text rest : Text} {tokens : List Token}
    (h : Reads offset text tokens last rest) :
    scanFrom offset 0 text =
      ⟨tokens ++ (scanFrom last 0 rest).tokens, (scanFrom last 0 rest).fault⟩ := by
  induction h with
  | stop => rfl
  | layout hc _ ih => rw [scanFrom_layout hc, ih]
  | token hw _ ih => rw [scanFrom_token hw, ih]; rfl

theorem exists_reads (offset : Nat) (text : Text) : ∃ last rest,
    Reads offset text (scanFrom offset 0 text).tokens last rest ∧
      ((rest = [] ∧ (scanFrom offset 0 text).fault = none) ∨
        (Stuck rest ∧ (scanFrom offset 0 text).fault = some last)) := by
  induction hn : text.length using Nat.strong_induction_on generalizing offset text with
  | _ n ih =>
    subst hn
    cases text with
    | nil => exact ⟨offset, [], .stop _ _, Or.inl ⟨rfl, rfl⟩⟩
    | cons c more =>
      by_cases hc : Blank.isLayout c = true
      · obtain ⟨last, rest, hr, he⟩ := ih more.length (Nat.lt_succ_self _) (offset + 1) more rfl
        rw [scanFrom_layout hc]
        exact ⟨last, rest, .layout hc hr, he⟩
      · cases hl : longest? (c :: more) with
        | none =>
          have hs : Stuck (c :: more) :=
            ⟨⟨c, more, rfl, by simpa using hc⟩, longest?_eq_none_iff.mp hl⟩
          rw [scanFrom_stuck hs]
          exact ⟨offset, c :: more, .stop _ _, Or.inr ⟨hs, rfl⟩⟩
        | some p =>
          obtain ⟨kind, n⟩ := p
          obtain ⟨hn, hw⟩ := longest?_take hl
          have hlen : ((c :: more).take n).length = n := List.length_take_of_le hn
          have hm : Munch kind ((c :: more).take n) (c :: more) := by
            rw [munch_iff, hlen]
            exact ⟨hl, rfl⟩
          have hpos := List.length_pos_iff.mpr hw.ne_nil
          have hlt : ((c :: more).drop n).length < (c :: more).length := by
            rw [List.length_drop]
            omega
          obtain ⟨last, rest, hr, he⟩ := ih _ hlt (offset + n) _ rfl
          rw [scanFrom_token hm, hlen]
          exact ⟨last, rest, .token hm (by rw [hlen]; exact hr), he⟩

/-! ## Offsets and order -/

section Order
variable {offset last : Nat} {text rest : Text} {tokens : List Token}

theorem Reads.drop (h : Reads offset text tokens last rest) :
    offset ≤ last ∧ last - offset ≤ text.length ∧ rest = text.drop (last - offset) := by
  induction h with
  | stop => simp
  | @layout offset last c text rest tokens _ _ ih =>
    obtain ⟨h₁, h₂, h₃⟩ := ih
    have he : last - offset = last - (offset + 1) + 1 := by omega
    rw [he, List.drop_succ_cons, List.length_cons]
    exact ⟨by omega, by omega, h₃⟩
  | @token offset last kind w text rest tokens hw _ ih =>
    obtain ⟨h₁, h₂, h₃⟩ := ih
    have hle := hw.starts.length_le
    rw [List.length_drop] at h₂
    rw [List.drop_drop] at h₃
    have he : last - offset = w.length + (last - (offset + w.length)) := by omega
    rw [he]
    exact ⟨by omega, by omega, h₃⟩

theorem Reads.mem (h : Reads offset text tokens last rest) {t : Token} (ht : t ∈ tokens) :
    Spells t.kind t.text ∧ offset ≤ t.start ∧ t.stop ≤ last ∧
      t.text = (text.drop (t.start - offset)).take t.text.length := by
  induction h with
  | stop => simp at ht
  | @layout offset last c text rest tokens _ _ ih =>
    obtain ⟨h₁, h₂, h₃, h₄⟩ := ih ht
    have he : t.start - offset = t.start - (offset + 1) + 1 := by omega
    rw [he, List.drop_succ_cons]
    exact ⟨h₁, by omega, h₃, h₄⟩
  | @token offset last kind w text rest tokens hw hr ih =>
    rcases List.mem_cons.mp ht with rfl | ht
    · have hd := hr.drop.1
      refine ⟨hw.spells, Nat.le_refl _, hd, ?_⟩
      simpa using (munch_iff.mp hw).2
    · obtain ⟨h₁, h₂, h₃, h₄⟩ := ih ht
      rw [List.drop_drop] at h₄
      have he : t.start - offset = w.length + (t.start - (offset + w.length)) := by omega
      rw [he]
      exact ⟨h₁, by omega, h₃, h₄⟩

theorem Reads.munch (h : Reads offset text tokens last rest) {t : Token} (ht : t ∈ tokens) :
    Munch t.kind t.text (text.drop (t.start - offset)) := by
  induction h with
  | stop => cases ht
  | @layout offset last c text rest tokens _ hr ih =>
    have hle := (hr.mem ht).2.1
    have he : t.start - offset = t.start - (offset + 1) + 1 := by omega
    rw [he, List.drop_succ_cons]
    exact ih ht
  | @token offset last kind w text rest tokens hw hr ih =>
    rcases List.mem_cons.mp ht with rfl | ht
    · rw [Nat.sub_self]
      exact hw
    · have hle := (hr.mem ht).2.1
      have he : t.start - offset = w.length + (t.start - (offset + w.length)) := by omega
      rw [he, ← List.drop_drop]
      exact ih ht

theorem Reads.ordered (h : Reads offset text tokens last rest) :
    tokens.Pairwise fun a b => a.stop ≤ b.start := by
  induction h with
  | stop => exact .nil
  | layout _ _ ih => exact ih
  | token _ hr ih => exact .cons (fun b hb => (hr.mem hb).2.1) ih

end Order

theorem stop_eq (t : Token) : t.stop = t.start + t.text.length := rfl

/-- Tokens in order inside a source of some length, each one spelled as its kind demands. -/
structure Laid (length : Nat) (tokens : List Token) : Prop where
  ordered : tokens.Pairwise fun a b => a.stop ≤ b.start
  bounded : ∀ t ∈ tokens, t.stop ≤ length
  spelled : ∀ t ∈ tokens, Spells t.kind t.text

theorem Laid.sublist {length : Nat} {few many : List Token} (h : Laid length many)
    (hs : few.Sublist many) : Laid length few :=
  ⟨h.ordered.sublist hs, fun t ht => h.bounded t (hs.subset ht),
    fun t ht => h.spelled t (hs.subset ht)⟩

theorem Reads.laid {source rest : Text} {tokens : List Token} {last : Nat}
    (h : Reads 0 source tokens last rest) : Laid source.length tokens := by
  refine ⟨h.ordered, fun t ht => ?_, fun t ht => (h.mem ht).1⟩
  have h₁ := (h.mem ht).2.2.1
  have h₂ := h.drop.2.1
  omega

theorem Covers.unique {source : Text} {tokens others : List Token} (h : Covers source tokens)
    (ho : Covers source others) : tokens = others := by
  have he := h.scanFrom_eq.symm.trans ho.scanFrom_eq
  simpa using congrArg Scan.tokens he

theorem Reads.covers {source : Text} {tokens : List Token} {last : Nat}
    (h : Reads 0 source tokens last []) : Covers source tokens := by
  have hd := h.drop
  have hlast : last = source.length := by
    have := List.drop_eq_nil_iff.mp hd.2.2.symm
    omega
  rw [hlast] at h
  exact h

theorem covers_iff {source : Text} {tokens : List Token} :
    Covers source tokens ↔ scan source = ⟨tokens, none⟩ := by
  constructor
  · intro h
    have he := h.scanFrom_eq
    simpa [scan, scanFrom] using he
  · intro h
    obtain ⟨last, rest, hr, he⟩ := exists_reads 0 source
    rw [scan] at h
    rw [h] at hr he
    rcases he with ⟨rfl, -⟩ | ⟨-, he⟩
    · exact hr.covers
    · simp at he

/-! ## Cutting -/

section Cutting
variable {offset last : Nat} {text rest : Text}

/-- Where the last of some tokens stops, or where they would have started. -/
def endOf (offset : Nat) (tokens : List Token) : Nat := (tokens.getLast?.map stop).getD offset

@[simp] theorem endOf_cons (offset : Nat) (t : Token) (tokens : List Token) :
    endOf offset (t :: tokens) = endOf t.stop tokens := by
  cases tokens with
  | nil => rfl
  | cons u more => simp [endOf, List.getLast?_cons]

theorem Reads.split {before after : List Token}
    (h : Reads offset text (before ++ after) last rest) :
    ∃ middle, Reads offset text before (endOf offset before) middle ∧
      Reads (endOf offset before) middle after last rest := by
  generalize ht : before ++ after = tokens at h
  induction h generalizing before with
  | stop offset text =>
    obtain ⟨rfl, rfl⟩ := List.append_eq_nil_iff.mp ht
    exact ⟨text, .stop _ _, .stop _ _⟩
  | @layout offset last c text rest tokens hc hr ih =>
    cases before with
    | nil =>
      rw [List.nil_append] at ht
      subst ht
      exact ⟨c :: text, .stop _ _, .layout hc hr⟩
    | cons t more =>
      obtain ⟨middle, h₁, h₂⟩ := ih ht
      simp only [endOf_cons] at h₁ h₂ ⊢
      exact ⟨middle, .layout hc h₁, h₂⟩
  | @token offset last kind w text rest tokens hw hr ih =>
    cases before with
    | nil =>
      rw [List.nil_append] at ht
      subst ht
      exact ⟨text, .stop _ _, .token hw hr⟩
    | cons t more =>
      obtain ⟨hhead, hmore⟩ := List.cons.inj ht
      subst hhead
      obtain ⟨middle, h₁, h₂⟩ := ih hmore
      simp only [endOf_cons]
      exact ⟨middle, .token hw h₁, h₂⟩

theorem Reads.append {middle : Text} {mid : Nat} {before after : List Token}
    (h₁ : Reads offset text before mid middle) (h₂ : Reads mid middle after last rest) :
    Reads offset text (before ++ after) last rest := by
  induction h₁ with
  | stop => exact h₂
  | layout hc _ ih => exact .layout hc (ih h₂)
  | token hw _ ih => exact .token hw (ih h₂)

theorem Reads.skip {t : Token} {tokens : List Token}
    (h : Reads offset text (t :: tokens) last rest) :
    offset ≤ t.start ∧ Reads t.start (text.drop (t.start - offset)) (t :: tokens) last rest := by
  generalize ht : t :: tokens = all at h
  induction h with
  | stop => contradiction
  | @layout offset last c text rest all hc hr ih =>
    obtain ⟨hle, h⟩ := ih ht
    have he : t.start - offset = t.start - (offset + 1) + 1 := by omega
    rw [he, List.drop_succ_cons]
    exact ⟨by omega, h⟩
  | @token offset last kind w text rest all hw hr =>
    obtain ⟨rfl, rfl⟩ := List.cons.inj ht
    exact ⟨Nat.le_refl _, by simpa using .token hw hr⟩

/-- The same token in a source that starts some places further on. -/
def back (distance : Nat) (t : Token) : Token := { t with start := t.start - distance }

theorem Reads.translate {tokens : List Token} {distance : Nat}
    (h : Reads offset text tokens last rest) (hd : distance ≤ offset) :
    Reads (offset - distance) text (tokens.map (back distance)) (last - distance) rest := by
  induction h with
  | stop => exact .stop _ _
  | @layout offset last c text rest tokens hc hr ih =>
    have h := ih (Nat.le_succ_of_le hd)
    rw [Nat.sub_add_comm hd] at h
    exact .layout hc h
  | @token offset last kind w text rest tokens hw hr ih =>
    have h := ih (Nat.le_add_right_of_le hd)
    rw [Nat.sub_add_comm hd] at h
    exact .token hw h

theorem Munch.of_append {kind : Kind} {w u rest : Text} (hw : Munch kind w (u ++ rest))
    (hle : w.length ≤ u.length) : Munch kind w u :=
  ⟨List.prefix_of_prefix_length_le hw.starts (List.prefix_append _ _) hle, hw.spells,
    fun other v hv hp => hw.longest other v hv (hp.trans (List.prefix_append _ _))⟩

/-- The part of a text that was read is read alone as the same tokens. -/
theorem Reads.truncate {tokens : List Token} {u : Text}
    (h : Reads offset text tokens last rest) (ht : text = u ++ rest) :
    Reads offset u tokens last [] := by
  induction h generalizing u with
  | stop =>
    have hu : u = [] := List.eq_nil_of_length_eq_zero (by simpa using congrArg List.length ht)
    subst hu
    exact .stop _ _
  | @layout offset last c text rest tokens hc hr ih =>
    have hd := hr.drop
    cases u with
    | nil =>
      have hl := congrArg List.length ht
      rw [hd.2.2] at hl
      simp at hl
      omega
    | cons d v =>
      obtain ⟨hhead, hmore⟩ := List.cons.inj ht
      subst hhead
      exact .layout hc (ih hmore)
  | @token offset last kind w text rest tokens hw hr ih =>
    have hd := hr.drop
    have hle := hw.starts.length_le
    have hlu : w.length ≤ u.length := by
      have hl := congrArg List.length ht
      have hr := congrArg List.length hd.2.2
      simp only [List.length_append, List.length_drop] at hl hr
      omega
    subst ht
    rw [List.drop_append_of_le_length hlu] at ih
    exact .token (hw.of_append hlu) (ih rfl)

/-- The source between the first and the last of some neighbouring tokens is read as these
tokens. -/
theorem Covers.part {source : Text} {before part after : List Token} {a b : Token}
    (h : Covers source (before ++ part ++ after)) (ha : part.head? = some a)
    (hb : part.getLast? = some b) :
    Covers ((source.drop a.start).take (b.stop - a.start)) (part.map (back a.start)) := by
  obtain ⟨m₁, h₁, h₂⟩ := Reads.split (List.append_assoc _ _ _ ▸ h)
  obtain ⟨m₂, h₃, -⟩ := h₂.split
  have hlast : endOf (endOf 0 before) part = b.stop := by simp [endOf, hb]
  rw [hlast] at h₃
  obtain ⟨more, rfl⟩ := List.head?_eq_some_iff.mp ha
  obtain ⟨hle, h₄⟩ := h₃.skip
  have hm : m₁.drop (a.start - endOf 0 before) = source.drop a.start := by
    rw [h₁.drop.2.2, List.drop_drop, Nat.sub_zero]
    congr 1
    omega
  rw [hm] at h₄
  obtain ⟨hb₁, hb₂, hb₃⟩ := h₄.drop
  have h₅ := h₄.translate (Nat.le_refl _)
  have h₆ := h₅.truncate (u := (source.drop a.start).take (b.stop - a.start))
    (by rw [hb₃, List.take_append_drop])
  rw [Nat.sub_self] at h₆
  unfold Covers
  rwa [List.length_take_of_le hb₂]

theorem prefix_of_no_layout {v text more : Text} {c : Char} (hc : Blank.isLayout c = true)
    (hv : ∀ d ∈ v, Blank.isLayout d = false) (hp : v <+: text ++ c :: more) : v <+: text := by
  by_cases hle : v.length ≤ text.length
  · exact List.prefix_of_prefix_length_le hp (List.prefix_append _ _) hle
  · have hpre : text ++ [c] <+: v :=
      List.prefix_of_prefix_length_le (by simp) hp (by simpa using by omega)
    have hmem : c ∈ v := hpre.subset (by simp)
    rw [hv c hmem] at hc
    contradiction

theorem Munch.before_layout {kind : Kind} {w text : Text} (hw : Munch kind w text) {c : Char}
    (hc : Blank.isLayout c = true) (more : Text) : Munch kind w (text ++ c :: more) :=
  ⟨hw.starts.trans (List.prefix_append _ _), hw.spells, fun other v hv hp =>
    hw.longest other v hv (prefix_of_no_layout hc hv.no_layout hp)⟩

theorem Reads.before_layout {tokens : List Token} (h : Reads offset text tokens last [])
    {c : Char} (hc : Blank.isLayout c = true) (more : Text) :
    Reads offset (text ++ c :: more) tokens last (c :: more) := by
  generalize he : ([] : Text) = rest at h
  induction h with
  | stop => subst he; exact .stop _ _
  | layout hd _ ih => exact .layout hd (ih he)
  | @token offset last kind w text rest tokens hw _ ih =>
    have h := ih he
    rw [← List.drop_append_of_le_length hw.starts.length_le] at h
    exact .token (hw.before_layout hc more) h

end Cutting

end Reckoner.Token
