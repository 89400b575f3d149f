import Reckoner.Proofs.Token.Margins
import Reckoner.Span

/-! # Parentheses put into a source

A pair of parentheses around neighbouring tokens ends whatever token stands next to it. So the
source with the pair is read as the same tokens, with two more, and those behind the opening one
stand further on by one place, those behind the closing one by two.
-/
namespace Reckoner

/-- The source with a pair of parentheses around a part of it. -/
def Span.parenthesized (span : Span) (source : Text) : Text :=
  source.take span.start ++ '(' :: (span.text source ++ ')' :: source.drop span.stop)

theorem Span.text_parenthesized {span : Span} {source : Text} (h : span.Within source.length) :
    Span.text ⟨span.start, span.stop + 2⟩ (span.parenthesized source) =
      '(' :: (span.text source ++ [')']) := by
  obtain ⟨hle, hstop⟩ := h
  have hfront : (source.take span.start).length = span.start :=
    List.length_take_of_le (Nat.le_trans hle hstop)
  have hpart : (span.text source).length = span.stop - span.start := by
    rw [Span.text, List.length_take, List.length_drop]
    omega
  have hlen :
      span.stop + 2 - span.start = (('(' :: (span.text source ++ [')'])) : Text).length := by
    simp only [List.length_cons, List.length_append, List.length_nil, hpart]
    omega
  have hsplit : '(' :: (span.text source ++ ')' :: source.drop span.stop) =
      ('(' :: (span.text source ++ [')'])) ++ source.drop span.stop := by
    rw [List.cons_append, List.append_assoc, List.singleton_append]
  rw [Span.text, Span.parenthesized, List.drop_left' hfront, hlen, hsplit, List.take_left]

namespace Token

/-- The same token in a source that starts some places earlier. -/
def ahead (distance : Nat) (t : Token) : Token := { t with start := t.start + distance }

section Reading
variable {offset last : Nat} {text rest : Text} {tokens : List Token}

theorem Reads.ahead (h : Reads offset text tokens last rest) (distance : Nat) :
    Reads (offset + distance) text (tokens.map (ahead distance)) (last + distance) rest := by
  induction h with
  | stop => exact .stop _ _
  | layout hc _ ih =>
    rw [Nat.add_right_comm] at ih
    exact .layout hc ih
  | token hw _ ih =>
    rw [Nat.add_right_comm] at ih
    exact .token hw ih

theorem Reads.before_ends (h : Reads offset text tokens last []) {more : Text} (hm : Ends more) :
    Reads offset (text ++ more) tokens last more := by
  generalize hr : ([] : Text) = rest at h
  induction h with
  | stop =>
    subst hr
    exact .stop _ _
  | layout hc _ ih => exact .layout hc (ih hr)
  | token hw _ ih =>
    have hread := ih hr
    rw [← List.drop_append_of_le_length hw.starts.length_le] at hread
    exact .token (hw.before_ends hm) hread

theorem reads_layout {layout : Text} (h : ∀ c ∈ layout, Blank.isLayout c = true) (offset : Nat)
    (rest : Text) : Reads offset (layout ++ rest) [] (offset + layout.length) rest := by
  induction layout generalizing offset with
  | nil => exact .stop _ _
  | cons c layout ih =>
    obtain ⟨hc, hl⟩ := List.forall_mem_cons.mp h
    have hread := ih hl (offset + 1)
    rw [Nat.add_assoc, Nat.add_comm 1] at hread
    exact .layout hc hread

theorem Reads.split_before {before after : List Token} {t : Token}
    (h : Reads offset text (before ++ t :: after) last rest) :
    offset ≤ t.start ∧ Reads offset (text.take (t.start - offset)) before t.start [] ∧
      Reads t.start (text.drop (t.start - offset)) (t :: after) last rest := by
  obtain ⟨middle, hbefore, hafter⟩ := h.split
  obtain ⟨hle, hskip⟩ := hafter.skip
  have hlayout := hafter.layout_before
  have hd := hbefore.drop
  have hdrop : middle.drop (t.start - endOf offset before) = text.drop (t.start - offset) := by
    rw [hd.2.2, List.drop_drop]
    congr 1
    omega
  have hlen : (middle.take (t.start - endOf offset before)).length =
      t.start - endOf offset before := by
    have hlast := hafter.drop.2.1
    have hstart := hskip.drop.1
    exact List.length_take_of_le (by omega)
  have hgap := reads_layout hlayout (endOf offset before)
    (middle.drop (t.start - endOf offset before))
  rw [List.take_append_drop, hlen, Nat.add_sub_cancel' hle, hdrop] at hgap
  rw [hdrop] at hskip
  have hfront := hbefore.append hgap
  rw [List.append_nil] at hfront
  exact ⟨Nat.le_trans hd.1 hle, hfront.truncate (List.take_append_drop _ _).symm, hskip⟩

end Reading

/-- Parentheses around neighbouring tokens are read as two tokens more. -/
theorem Covers.parenthesized {source : Text} {before part after : List Token} {a b : Token}
    (h : Covers source (before ++ part ++ after)) (ha : part.head? = some a)
    (hb : part.getLast? = some b) :
    Covers (Span.parenthesized ⟨a.start, b.stop⟩ source)
      (before ++ ⟨.openParen, ['('], a.start⟩ :: (part.map (ahead 1) ++
        [⟨.closeParen, [')'], b.stop + 1⟩]) ++ after.map (ahead 2)) := by
  obtain ⟨more, rfl⟩ := List.head?_eq_some_iff.mp ha
  rw [List.append_assoc, List.cons_append] at h
  obtain ⟨-, hbefore, hrest⟩ := h.split_before
  rw [Nat.sub_zero] at hbefore hrest
  rw [← List.cons_append] at hrest
  obtain ⟨middle, hpart, hafter⟩ := hrest.split
  have hlast : endOf a.start (a :: more) = b.stop := by
    rw [endOf, hb]
    rfl
  rw [hlast] at hpart hafter
  obtain ⟨hle, hlen, hmiddle⟩ := hpart.drop
  have htext : source.drop a.start = Span.text ⟨a.start, b.stop⟩ source ++ middle := by
    rw [hmiddle, Span.text, List.take_append_drop]
  have hstop : middle = source.drop b.stop := by
    rw [hmiddle, List.drop_drop, Nat.add_sub_cancel' hle]
  rw [hstop] at hafter
  have hinner := (hpart.truncate htext).ahead 1
  have hclose : Ends (')' :: source.drop b.stop) := ends_cons (by decide) _
  have hopen : Ends ('(' :: (Span.text ⟨a.start, b.stop⟩ source ++ ')' :: source.drop b.stop)) :=
    ends_cons (by decide) _
  have hfront := (hbefore.before_ends hopen).append (@reads_mark '(' .openParen rfl _ a.start)
  have hback := (hinner.before_ends hclose).append
    (@reads_mark ')' .closeParen rfl (source.drop b.stop) (b.stop + 1))
  have hall := ((hfront.append hback).append (hafter.ahead 2)).covers
  rwa [List.append_assoc before, List.singleton_append] at hall

end Token

end Reckoner
