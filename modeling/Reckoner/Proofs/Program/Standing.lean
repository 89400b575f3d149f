import Reckoner.Proofs.Grammar.Unambiguity

/-! # How a source stands

A source stands in exactly one of four ways to the grammar: it is a sentence, or it breaks off where
a sentence could go on, or a token comes that no sentence has there, or a place comes where there is
no token at all. Nothing is asked of what follows the first fault. The reader of phrases finds out
which way it is.
-/
namespace Reckoner
open Token (Reads Covers Stuck)

namespace Reading

theorem run_append {reading next : Reading} {tokens : List Token}
    (h : reading.takes tokens = some next) (last : Nat) (more : List Token) :
    ∃ start, reading.run last (tokens ++ more) = next.run start more := by
  induction tokens generalizing reading last with
  | nil =>
    cases h
    exact ⟨last, rfl⟩
  | cons t rest ih =>
    rw [takes_cons] at h
    obtain ⟨mid, ht, hr⟩ := Option.bind_eq_some_iff.mp h
    rw [List.cons_append, run, ht]
    exact ih hr t.start

theorem run_refused {reading : Reading} {t : Token} (h : reading.take t = none) (last : Nat)
    (more : List Token) :
    reading.run last (t :: more) = .error (.token t.kind.label t.text (some t.start)) := by
  rw [run, h]

theorem exists_refused {reading : Reading} {tokens : List Token}
    (h : reading.takes tokens = none) : ∃ before t after next, tokens = before ++ t :: after ∧
      reading.takes before = some next ∧ next.take t = none := by
  induction tokens generalizing reading with
  | nil => cases h
  | cons t rest ih =>
    cases ht : reading.take t with
    | none => exact ⟨[], t, rest, reading, rfl, rfl, ht⟩
    | some mid =>
      rw [takes_cons, ht] at h
      obtain ⟨before, u, after, next, rfl, hb, hu⟩ := ih h
      exact ⟨t :: before, u, after, next, rfl, by simp [ht, hb], hu⟩

theorem not_viable_of_refused {before : List Token} {t : Token} {next : Reading}
    (hb : start.takes before = some next) (ht : next.take t = none) :
    ¬Viable (before ++ [t]) := by
  intro hv
  obtain ⟨reading, hr⟩ := viable_iff.mp hv
  simp [hb, ht] at hr

end Reading

inductive Standing
  | sentence (d : Sentence)
  | unfinished
  | misplaced (t : Token)
  | unreadable (offset : Nat)

namespace Standing

inductive Holds (source : Text) : Standing → Prop
  | sentence {d : Sentence} (h : Covers source d.yield) : Holds source (.sentence d)
  | unfinished {tokens : List Token} (h : Covers source tokens) (hv : Viable tokens)
      (hn : ¬IsSentence tokens) : Holds source .unfinished
  | misplaced {before : List Token} {t : Token} {last : Nat} {rest : Text}
      (h : Reads 0 source (before ++ [t]) last rest) (hv : Viable before)
      (hn : ¬Viable (before ++ [t])) : Holds source (.misplaced t)
  | unreadable {tokens : List Token} {offset : Nat} {rest : Text}
      (h : Reads 0 source tokens offset rest) (hv : Viable tokens) (hs : Stuck rest) :
      Holds source (.unreadable offset)

/-- The outcome of reading a source. `last` is where its last token starts. -/
def outcome (last : Nat) : Standing → Except SyntaxFault Phrase
  | .sentence d => .ok d.piece.phrase
  | .unfinished => .error (.ended last)
  | .misplaced t => .error (.token t.kind.label t.text (some t.start))
  | .unreadable offset => .error (.character offset)

variable {source : Text}

theorem exists_holds (source : Text) : ∃ standing : Standing, standing.Holds source := by
  obtain ⟨last, rest, hr, he⟩ := Token.exists_reads 0 source
  cases ht : Reading.start.takes (Token.scanFrom 0 0 source).tokens with
  | none =>
    obtain ⟨before, t, after, next, hsplit, hb, hn⟩ := Reading.exists_refused ht
    rw [hsplit, List.append_cons] at hr
    obtain ⟨middle, hfirst, -⟩ := hr.split
    exact ⟨.misplaced t, .misplaced hfirst (viable_iff.mpr ⟨next, hb⟩)
      (Reading.not_viable_of_refused hb hn)⟩
  | some reading =>
    have hv := viable_iff.mpr ⟨reading, ht⟩
    rcases he with ⟨rfl, hf⟩ | ⟨hs, -⟩
    · have hc : Covers source (Token.scanFrom 0 0 source).tokens :=
        Token.covers_iff.mpr (by rw [← hf]; rfl)
      by_cases hn : IsSentence (Token.scanFrom 0 0 source).tokens
      · obtain ⟨d, hd⟩ := hn
        exact ⟨.sentence d, .sentence (hd ▸ hc)⟩
      · exact ⟨.unfinished, .unfinished hc hv hn⟩
    · exact ⟨.unreadable last, .unreadable hr hv hs⟩

theorem Holds.read {standing : Standing} (h : standing.Holds source) :
    ∃ last, Phrase.read source = standing.outcome last := by
  cases h with
  | @sentence d h =>
    obtain ⟨reading, ht, hf⟩ := Reading.takes_sentence d
    obtain ⟨last, hr⟩ := Reading.run_append ht 0 []
    rw [List.append_nil] at hr
    refine ⟨last, ?_⟩
    simp only [Phrase.read, Token.covers_iff.mp h, hr, Reading.run, hf, outcome]
  | @unfinished tokens h hv hn =>
    obtain ⟨reading, ht⟩ := viable_iff.mp hv
    obtain ⟨last, hr⟩ := Reading.run_append ht 0 []
    rw [List.append_nil] at hr
    have hf : reading.finish? = none := by
      cases hf : reading.finish? with
      | none => rfl
      | some phrase =>
        obtain ⟨d, hd, -⟩ := finishes_iff.mp ⟨reading, ht, hf⟩
        exact absurd ⟨d, hd⟩ hn
    refine ⟨last, ?_⟩
    simp only [Phrase.read, Token.covers_iff.mp h, hr, Reading.run, hf, outcome]
  | @misplaced before t last rest h hv hn =>
    obtain ⟨reading, ht⟩ := viable_iff.mp hv
    have hu : reading.take t = none := by
      cases hu : reading.take t with
      | none => rfl
      | some next =>
        refine absurd (viable_iff.mpr ⟨next, ?_⟩) hn
        simp [ht, hu]
    have hs := h.scanFrom_eq
    rw [List.append_assoc, List.singleton_append] at hs
    obtain ⟨start, hr⟩ := Reading.run_append ht 0 (t :: (Token.scanFrom last 0 rest).tokens)
    rw [Reading.run_refused hu] at hr
    exact ⟨0, by simp only [Phrase.read, Token.scan, hs, hr, outcome]⟩
  | @unreadable tokens offset rest h hv hstuck =>
    obtain ⟨reading, ht⟩ := viable_iff.mp hv
    have hs := h.scanFrom_eq
    rw [Token.scanFrom_stuck hstuck] at hs
    obtain ⟨last, hr⟩ := Reading.run_append ht 0 []
    exact ⟨0, by simp only [Phrase.read, Token.scan, hs, hr, Reading.run, outcome]⟩

theorem label_injective : Function.Injective Token.Kind.label := by
  intro a b h
  cases a <;> cases b <;> first | rfl | exact absurd h (by decide)

theorem Holds.unique {a b : Standing} (ha : a.Holds source) (hb : b.Holds source) : a = b := by
  obtain ⟨last, hra⟩ := ha.read
  obtain ⟨last', hrb⟩ := hb.read
  have ho := hra.symm.trans hrb
  cases ha with
  | sentence ha =>
    cases hb with
    | sentence hb => rw [derivation_unique (ha.unique hb)]
    | _ => cases ho
  | unfinished =>
    cases hb with
    | unfinished => rfl
    | _ => cases ho
  | @misplaced before t =>
    cases hb with
    | @misplaced before' u =>
      obtain ⟨kind, text, start⟩ := t
      obtain ⟨kind', text', start'⟩ := u
      simp only [outcome, Except.error.injEq, SyntaxFault.token.injEq, Option.some.injEq,
        Int.natCast_inj] at ho
      obtain ⟨hk, rfl, rfl⟩ := ho
      rw [label_injective hk]
    | _ => cases ho
  | unreadable =>
    cases hb with
    | unreadable =>
      cases ho
      rfl
    | _ => cases ho

end Standing

end Reckoner
