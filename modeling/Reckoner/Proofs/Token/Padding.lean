import Mathlib.Data.List.Forall2
import Reckoner.Proofs.Token.Reads

/-! # Layout between tokens

Layout may be put anywhere before, between and after the tokens of a source, and after a place that
cannot be read. It neither joins nor parts tokens: no token has layout in it, so whatever starts the
longer source at a token started the shorter one there. The tokens of both sources are the same but
for their places, and reading comes to its end at the same character.
-/
namespace Reckoner.Token

/-- The same token but for its place. -/
def Alike (t t' : Token) : Prop := t.kind = t'.kind ∧ t.text = t'.text

theorem kinds_eq {tokens tokens' : List Token} (h : List.Forall₂ Alike tokens tokens') :
    tokens.map kind = tokens'.map kind := by
  induction h with
  | nil => rfl
  | cons ha _ ih => rw [List.map_cons, List.map_cons, ha.1, ih]

/-- A text, and a text that has more layout before, between and after the tokens of the first. -/
inductive Padded : Text → Text → Prop
  | nil : Padded [] []
  | stuck {rest layout : Text} (hs : Stuck rest) (hl : ∀ c ∈ layout, Blank.isLayout c = true) :
      Padded rest (rest ++ layout)
  | insert {c : Char} {text padded : Text} (hc : Blank.isLayout c = true) (h : Padded text padded) :
      Padded text (c :: padded)
  | layout {c : Char} {text padded : Text} (hc : Blank.isLayout c = true) (h : Padded text padded) :
      Padded (c :: text) (c :: padded)
  | token {kind : Kind} {w text padded : Text} (hw : Munch kind w text)
      (h : Padded (text.drop w.length) padded) : Padded text (w ++ padded)

theorem Stuck.append_layout {rest layout : Text} (hs : Stuck rest)
    (hl : ∀ c ∈ layout, Blank.isLayout c = true) : Stuck (rest ++ layout) := by
  obtain ⟨⟨c, more, rfl, hc⟩, hw⟩ := hs
  refine ⟨⟨c, more ++ layout, rfl, hc⟩, fun kind w hs hp => hw kind w hs ?_⟩
  cases layout with
  | nil => rwa [List.append_nil] at hp
  | cons d rest => exact prefix_of_no_layout (hl d List.mem_cons_self) hs.no_layout hp

/-- A token is still the longest if what follows it is replaced by a text that does not go on with
it further than before. -/
theorem Munch.replace {kind : Kind} {w text rest : Text} (hw : Munch kind w text)
    (h : ∀ other v, Spells other (w ++ v) → v <+: rest → v <+: text.drop w.length) :
    Munch kind w (w ++ rest) := by
  refine ⟨List.prefix_append w rest, hw.spells, fun other v hs hp => ?_⟩
  rcases List.prefix_or_prefix_of_prefix hp (List.prefix_append w rest) with hv | ⟨u, rfl⟩
  · exact hv.length_le
  · have hu := h other u hs ((List.prefix_append_right_inj w).mp hp)
    refine hw.longest other _ hs ?_
    rw [← List.prefix_iff_eq_append.mp hw.starts]
    exact (List.prefix_append_right_inj w).mpr hu

namespace Padded
variable {text padded : Text}

theorem starts (h : Padded text padded) {v : Text} (hv : ∀ d ∈ v, Blank.isLayout d = false)
    (hp : v <+: padded) : v <+: text := by
  induction h generalizing v with
  | nil => exact hp
  | @stuck rest more hs hl =>
    cases more with
    | nil => rwa [List.append_nil] at hp
    | cons d rest => exact prefix_of_no_layout (hl d List.mem_cons_self) hv hp
  | insert hc _ _ | layout hc _ _ =>
    have hnil : v <+: [] := prefix_of_no_layout hc hv hp
    exact hnil.trans List.nil_prefix
  | @token kind w text padded hw _ ih =>
    rcases List.prefix_or_prefix_of_prefix hp (List.prefix_append w padded) with hv' | ⟨u, rfl⟩
    · exact hv'.trans hw.starts
    · have hu := ih (fun d hd => hv d (List.mem_append_right w hd))
        ((List.prefix_append_right_inj w).mp hp)
      rw [← List.prefix_iff_eq_append.mp hw.starts]
      exact (List.prefix_append_right_inj w).mpr hu

theorem reads (h : Padded text padded) (offset offset' : Nat) :
    ∃ tokens tokens' last last' rest rest', Reads offset text tokens last rest ∧
      Reads offset' padded tokens' last' rest' ∧ List.Forall₂ Alike tokens tokens' ∧
      (rest = [] ∧ rest' = [] ∨ Stuck rest ∧ Stuck rest' ∧ rest.head? = rest'.head?) := by
  induction h generalizing offset offset' with
  | nil =>
    exact ⟨[], [], offset, offset', [], [], .stop _ _, .stop _ _, .nil, .inl ⟨rfl, rfl⟩⟩
  | @stuck rest layout hs hl =>
    refine ⟨[], [], offset, offset', rest, rest ++ layout, .stop _ _, .stop _ _, .nil,
      .inr ⟨hs, hs.append_layout hl, ?_⟩⟩
    obtain ⟨⟨c, more, rfl, -⟩, -⟩ := hs
    rfl
  | insert hc _ ih =>
    obtain ⟨tokens, tokens', last, last', rest, rest', hr, hr', ha, he⟩ := ih offset (offset' + 1)
    exact ⟨tokens, tokens', last, last', rest, rest', hr, .layout hc hr', ha, he⟩
  | layout hc _ ih =>
    obtain ⟨tokens, tokens', last, last', rest, rest', hr, hr', ha, he⟩ :=
      ih (offset + 1) (offset' + 1)
    exact ⟨tokens, tokens', last, last', rest, rest', .layout hc hr, .layout hc hr', ha, he⟩
  | @token kind w text padded hw h ih =>
    obtain ⟨tokens, tokens', last, last', rest, rest', hr, hr', ha, he⟩ :=
      ih (offset + w.length) (offset' + w.length)
    have hw' : Munch kind w (w ++ padded) := hw.replace fun other v hs hp =>
      h.starts (fun d hd => hs.no_layout d (List.mem_append_right w hd)) hp
    have hdrop : (w ++ padded).drop w.length = padded := List.drop_left
    rw [← hdrop] at hr'
    exact ⟨⟨kind, w, offset⟩ :: tokens, ⟨kind, w, offset'⟩ :: tokens', last, last', rest, rest',
      .token hw hr, .token hw' hr', .cons ⟨rfl, rfl⟩ ha, he⟩

theorem after {offset last : Nat} {rest : Text} {tokens : List Token}
    (hr : Reads offset text tokens last rest) (h : Padded rest padded) :
    Padded text (text.take (last - offset) ++ padded) := by
  induction hr with
  | stop => simpa using h
  | @layout offset last c text rest tokens hc hr ih =>
    have he : last - offset = last - (offset + 1) + 1 := by
      have := hr.drop.1
      omega
    rw [he, List.take_succ_cons]
    exact .layout hc (ih h)
  | @token offset last kind w text rest tokens hw hr ih =>
    have he : last - offset = w.length + (last - (offset + w.length)) := by
      have := hr.drop.1
      omega
    rw [he, List.take_add, ← List.prefix_iff_eq_take.mp hw.starts, List.append_assoc]
    exact .token hw (ih h)

theorem refl (text : Text) : Padded text text := by
  obtain ⟨last, rest, hr, he⟩ := exists_reads 0 text
  have hrest : Padded rest rest := by
    rcases he with ⟨rfl, -⟩ | ⟨hs, -⟩
    · exact .nil
    · have h : Padded rest (rest ++ []) := .stuck hs nofun
      rwa [List.append_nil] at h
  have h := after hr hrest
  rwa [hr.drop.2.2, Nat.sub_zero, List.take_append_drop] at h

theorem before {layout : Text} (hl : ∀ c ∈ layout, Blank.isLayout c = true)
    (h : Padded text padded) : Padded text (layout ++ padded) := by
  induction layout with
  | nil => exact h
  | cons c layout ih =>
    obtain ⟨hc, hl⟩ := List.forall_mem_cons.mp hl
    exact .insert hc (ih hl)

/-- Layout may be put in wherever reading can pause. -/
theorem between {last : Nat} {rest layout : Text} {tokens : List Token}
    (hr : Reads 0 text tokens last rest) (hl : ∀ c ∈ layout, Blank.isLayout c = true) :
    Padded text (text.take last ++ (layout ++ rest)) :=
  after hr (before hl (refl rest))

end Padded

end Reckoner.Token
