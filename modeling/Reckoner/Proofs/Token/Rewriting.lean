import Reckoner.Proofs.Token.Margins
import Reckoner.Proofs.Token.Padding

/-! # Text in place of tokens

A source is rewritten by exchanging its tokens and keeping all that stands between them. If names
are exchanged for a text in parentheses, the parentheses end whatever token stands next to them. So
the new source is read as the tokens of the old one, with the tokens of the text and two parentheses
in place of every such name.
-/
namespace Reckoner.Token

/-- A text that starts at an offset, with other text in place of its tokens. -/
def rewrite (f : Token → Text) : Nat → Text → List Token → Text
  | _, text, [] => text
  | offset, text, t :: tokens =>
    text.take (t.start - offset) ++ (f t ++ rewrite f t.stop (text.drop (t.stop - offset)) tokens)

def rewritten (f : Token → Text) (offset : Nat) (text : Text) : Text :=
  rewrite f offset text (scanFrom offset 0 text).tokens

section Rewritten
variable (f : Token → Text) (offset : Nat)

theorem rewritten_layout {c : Char} (hc : Blank.isLayout c = true) (text : Text) :
    rewritten f offset (c :: text) = c :: rewritten f (offset + 1) text := by
  obtain ⟨last, rest, hr, -⟩ := exists_reads (offset + 1) text
  rw [rewritten, rewritten, scanFrom_layout hc]
  cases ht : (scanFrom (offset + 1) 0 text).tokens with
  | nil => rfl
  | cons t tokens =>
    rw [ht] at hr
    have hle := hr.skip.1
    have hstart : t.start - offset = t.start - (offset + 1) + 1 := by omega
    have hstop : t.stop - offset = t.stop - (offset + 1) + 1 := by
      rw [stop_eq]
      omega
    rw [rewrite, rewrite, hstart, hstop, List.take_succ_cons, List.drop_succ_cons,
      List.cons_append]

theorem rewritten_token {kind : Kind} {w text : Text} (hw : Munch kind w text) :
    rewritten f offset text =
      f ⟨kind, w, offset⟩ ++ rewritten f (offset + w.length) (text.drop w.length) := by
  rw [rewritten, scanFrom_token hw, Scan.push, rewrite, stop_eq, Nat.sub_self, List.take_zero,
    List.nil_append, Nat.add_sub_cancel_left, rewritten]

theorem rewritten_marks {f : Token → Text} {c : Char} {kind : Kind} (hc : mark? c = some kind)
    (hf : ∀ start, f ⟨kind, [c], start⟩ = [c]) (n offset : Nat) (text : Text) :
    rewritten f offset (List.replicate n c ++ text) =
      List.replicate n c ++ rewritten f (offset + n) text := by
  induction n generalizing offset with
  | zero => rfl
  | succ n ih =>
    have hdrop : (c :: (List.replicate n c ++ text)).drop [c].length = List.replicate n c ++ text :=
      rfl
    rw [List.replicate_succ, List.cons_append, rewritten_token f offset (munch_mark hc _), hf,
      hdrop, ih, List.length_singleton, Nat.add_assoc, Nat.add_comm 1]
    rfl

end Rewritten

def Named (name : Text) (t : Token) : Prop := t.kind = .name ∧ t.text = name

instance (name : Text) (t : Token) : Decidable (Named name t) :=
  inferInstanceAs (Decidable (_ ∧ _))

/-- A text in parentheses for a name, and other tokens as they are. -/
def expanded (name part : Text) (t : Token) : Text :=
  if t.Named name then '(' :: (part ++ [')']) else t.text

/-- The tokens of a text in parentheses for a name, and other tokens as they are. -/
def expandedTokens (name : Text) (part : List Token) (t : Token) : List Token :=
  if t.Named name then ⟨.openParen, ['('], 0⟩ :: (part ++ [⟨.closeParen, [')'], 0⟩]) else [t]

/-- A source with a text in parentheses in place of a name. -/
def expand (name part source : Text) : Text := rewritten (expanded name part) 0 source

section Expand
variable {name part : Text} {offset last : Nat} {text rest : Text} {tokens : List Token}

/-- The tokens of a text that is followed by nothing that goes on with them, anywhere else. -/
theorem Reads.elsewhere (h : Reads offset text tokens last []) {more : Text} (hm : Ends more)
    (offset' : Nat) : ∃ tokens' last', Reads offset' (text ++ more) tokens' last' more ∧
      List.Forall₂ Alike tokens tokens' := by
  generalize hr : ([] : Text) = rest at h
  induction h generalizing offset' with
  | stop =>
    subst hr
    exact ⟨[], offset', .stop _ _, .nil⟩
  | layout hc _ ih =>
    obtain ⟨tokens', last', hr', ha⟩ := ih (offset' + 1) hr
    exact ⟨tokens', last', .layout hc hr', ha⟩
  | @token offset last kind w text rest tokens hw _ ih =>
    obtain ⟨tokens', last', hr', ha⟩ := ih (offset' + w.length) hr
    rw [← List.drop_append_of_le_length hw.starts.length_le] at hr'
    exact ⟨⟨kind, w, offset'⟩ :: tokens', last', .token (hw.before_ends hm) hr',
      .cons ⟨rfl, rfl⟩ ha⟩

/-- What starts the new text and has neither layout nor an opening parenthesis in it starts the old
one. -/
theorem Reads.starts_of_expanded (h : Reads offset text tokens last []) {v : Text}
    (hv : ∀ d ∈ v, Blank.isLayout d = false) (ho : '(' ∉ v)
    (hp : v <+: rewritten (expanded name part) offset text) : v <+: text := by
  generalize hr : ([] : Text) = rest at h
  induction h generalizing v with
  | stop =>
    subst hr
    exact hp
  | layout hc _ _ =>
    rw [rewritten_layout _ _ hc] at hp
    have hnil : v <+: [] := prefix_of_no_layout hc hv hp
    exact hnil.trans List.nil_prefix
  | @token offset last kind w text rest tokens hw _ ih =>
    rw [rewritten_token _ _ hw, expanded] at hp
    split at hp
    · cases v with
      | nil => exact List.nil_prefix
      | cons d v =>
        obtain ⟨rfl, -⟩ := List.cons_prefix_cons.mp hp
        exact absurd List.mem_cons_self ho
    · rcases List.prefix_or_prefix_of_prefix hp (List.prefix_append w _) with hv' | ⟨u, rfl⟩
      · exact hv'.trans hw.starts
      · have hu := ih (fun d hd => hv d (List.mem_append_right w hd))
          (fun hm => ho (List.mem_append_right w hm))
          ((List.prefix_append_right_inj w).mp hp) hr
        rw [← List.prefix_iff_eq_append.mp hw.starts]
        exact (List.prefix_append_right_inj w).mpr hu

/-- The new source is read as the old one, with the tokens of the part in place of the name. -/
theorem Reads.expand (h : Reads offset text tokens last []) {within : List Token}
    (hp : Covers part within) (offset' : Nat) : ∃ tokens' last',
      Reads offset' (rewritten (expanded name part) offset text) tokens' last' [] ∧
      List.Forall₂ Alike (tokens.flatMap (expandedTokens name within)) tokens' := by
  generalize hr : ([] : Text) = rest at h
  induction h generalizing offset' with
  | stop =>
    subst hr
    exact ⟨[], offset', .stop _ _, .nil⟩
  | layout hc _ ih =>
    obtain ⟨tokens', last', hr', ha⟩ := ih (offset' + 1) hr
    rw [rewritten_layout _ _ hc]
    exact ⟨tokens', last', .layout hc hr', ha⟩
  | @token offset last kind w text rest tokens hw hreads ih =>
    subst hr
    rw [rewritten_token _ _ hw, expanded, List.flatMap_cons, expandedTokens]
    generalize hout : rewritten (expanded name part) (offset + w.length) (text.drop w.length) = out
    split
    · have hclose : Ends (')' :: out) := ends_cons (by decide) out
      obtain ⟨inner, mid, hinner, hi⟩ := hp.elsewhere hclose (offset' + 1)
      obtain ⟨tokens', last', hr', ha⟩ := ih (mid + 1) rfl
      rw [hout] at hr'
      have hopen := @reads_mark '(' .openParen rfl (part ++ ')' :: out) offset'
      have hend := @reads_mark ')' .closeParen rfl out mid
      have hclosed : List.Forall₂ Alike [⟨.closeParen, [')'], 0⟩] [⟨.closeParen, [')'], mid⟩] :=
        .cons ⟨rfl, rfl⟩ .nil
      refine ⟨⟨.openParen, ['('], offset'⟩ :: (inner ++ [⟨.closeParen, [')'], mid⟩] ++ tokens'),
        last', ?_, .cons ⟨rfl, rfl⟩ (List.rel_append (List.rel_append hi hclosed) ha)⟩
      simpa using hopen.append ((hinner.append hend).append hr')
    · obtain ⟨tokens', last', hr', ha⟩ := ih (offset' + w.length) rfl
      have hw' : Munch kind w (w ++ out) := by
        refine hw.replace fun other v hs hv => ?_
        by_cases hm : '(' ∈ v
        · -- with a parenthesis in it, the spelling would be that parenthesis alone
          have hone := hs.length_le (List.mem_append_right w hm) (by decide)
          have hpos := List.length_pos_iff.mpr hw.spells.ne_nil
          have hvpos := List.length_pos_of_mem hm
          rw [List.length_append] at hone
          omega
        · rw [← hout] at hv
          exact hreads.starts_of_expanded (fun d hd => hs.no_layout d (List.mem_append_right w hd))
            hm hv
      have hdrop : (w ++ out).drop w.length = out := List.drop_left
      rw [hout, ← hdrop] at hr'
      exact ⟨⟨kind, w, offset'⟩ :: tokens', last', .token hw' hr', .cons ⟨rfl, rfl⟩ ha⟩

theorem Covers.expand {source : Text} {within : List Token} (h : Covers source tokens)
    (hp : Covers part within) (name : Text) : ∃ tokens', Covers (expand name part source) tokens' ∧
      List.Forall₂ Alike (tokens.flatMap (expandedTokens name within)) tokens' := by
  obtain ⟨tokens', last', hr, ha⟩ := Reads.expand h hp 0
  exact ⟨tokens', hr.covers, ha⟩

end Expand

end Reckoner.Token
