import Reckoner.Proofs.Grammar.Soundness

/-! # Sentences and their starts

The reader finishes exactly on sentences, with the phrase of their derivation. From any situation
at all it can be brought to an end by an operand, if one is missing, and one closing mark for each
open bracket. So the tokens it takes are exactly those that some sentence starts with.
-/
namespace Reckoner

def IsSentence (tokens : List Token) : Prop := ∃ s : Sentence, s.yield = tokens

/-- Some sentence starts with these tokens. -/
def Viable (tokens : List Token) : Prop := ∃ more, IsSentence (tokens ++ more)

namespace Frame

def brackets (frames : List Frame) : Nat := frames.countP fun frame => frame.strength = 0

theorem brackets_absorb (frames : List Frame) (p : Piece) :
    brackets (absorb 1 frames p).1 = brackets frames ∧ Loose 1 (absorb 1 frames p).1 := by
  induction frames generalizing p with
  | nil => exact ⟨rfl, loose_nil 1⟩
  | cons frame rest ih =>
    by_cases h : 1 ≤ frame.strength
    · rw [absorb_cons h]
      have hz : ¬frame.strength = 0 := Nat.one_le_iff_ne_zero.mp h
      refine ⟨?_, (ih _).2⟩
      rw [(ih _).1, brackets, brackets, List.countP_cons_of_neg (by simpa using hz)]
    · rw [absorb, if_neg h]
      exact ⟨rfl, loose_cons.mpr (Nat.lt_of_not_le h)⟩

end Frame

namespace Reading

theorem takes_sentence (s : Sentence) : ∃ reading, start.takes s.yield = some reading ∧
    reading.finish? = some s.piece.phrase := by
  obtain ⟨rest, p, ht, ha⟩ := s.follows [] (Frame.loose_nil 1)
  refine ⟨_, ht, ?_⟩
  have habs : Frame.absorb 1 rest p = ([], s.piece) := ha 1 (Nat.le_refl 1)
  simp only [finish?, habs]

theorem finish?_of_represents {reading : Reading} {tokens : List Token} {phrase : Phrase}
    (h : Represents reading tokens) (hf : reading.finish? = some phrase) :
    ∃ s : Sentence, s.yield = tokens ∧ s.piece.phrase = phrase := by
  cases h with
  | needing => cases hf
  | @holding frames before ho d =>
    obtain ⟨rest, left, s, ha, hopen, -, hy⟩ := ho.completes_sum (.applied d)
    change Frame.absorb 1 frames d.piece = (rest, s.piece) at ha
    simp only [finish?, ha] at hf
    cases rest with
    | cons frame more => cases hf
    | nil =>
      cases hopen
      exact ⟨s, hy, Option.some.inj hf⟩

/-- What is missing: an operand, if none is held, and the ends of the open brackets. -/
def ending (reading : Reading) : List Token.Kind :=
  (if reading.held.isSome then [] else [.name]) ++
    List.replicate (Frame.brackets reading.pending) .closeParen

theorem takes_closings (frames : List Frame) (p : Piece) (more : List Token)
    (hm : more.map Token.kind = List.replicate (Frame.brackets frames) .closeParen) :
    ∃ last phrase, takes ⟨frames, some p⟩ more = some last ∧ last.finish? = some phrase := by
  induction more generalizing frames p with
  | nil =>
    have hz : Frame.brackets frames = 0 := by simpa using (congrArg List.length hm).symm
    obtain ⟨hb, hl⟩ := Frame.brackets_absorb frames p
    refine ⟨_, (Frame.absorb 1 frames p).2.phrase, rfl, ?_⟩
    cases ha : Frame.absorb 1 frames p with
    | mk rest whole =>
      rw [ha, hz] at hb
      rw [ha] at hl
      cases rest with
      | nil => simp [finish?, ha]
      | cons frame rest =>
        have hs := Nat.lt_one_iff.mp (Frame.loose_cons.mp hl)
        simp [Frame.brackets, hs] at hb
  | cons t more ih =>
    obtain ⟨n, hn⟩ : ∃ n, Frame.brackets frames = n + 1 :=
      ⟨more.length, by simpa using (congrArg List.length hm).symm⟩
    rw [hn, List.replicate_succ, List.map_cons, List.cons.injEq] at hm
    obtain ⟨ht, hm⟩ := hm
    obtain ⟨hb, hl⟩ := Frame.brackets_absorb frames p
    rw [takes_cons, take_closing ht, close]
    cases ha : Frame.absorb 1 frames p with
    | mk rest whole =>
      rw [ha, hn] at hb
      rw [ha] at hl
      cases rest with
      | nil => simp [Frame.brackets] at hb
      | cons frame rest =>
        have hs := Nat.lt_one_iff.mp (Frame.loose_cons.mp hl)
        have hr : Frame.brackets rest = n := by simpa [Frame.brackets, hs] using hb
        cases frame with
        | parens start => exact ih rest _ (hr ▸ hm)
        | arguments callee done => exact ih rest _ (hr ▸ hm)
        | negated => simp [Frame.strength] at hs
        | operand op => cases op <;> simp [Frame.strength, Operator.strength] at hs

theorem takes_ending {reading : Reading} {more : List Token}
    (hm : more.map Token.kind = reading.ending) :
    ∃ last phrase, reading.takes more = some last ∧ last.finish? = some phrase := by
  obtain ⟨frames, held⟩ := reading
  cases held with
  | some p => exact takes_closings frames p more hm
  | none =>
    cases more with
    | nil => cases hm
    | cons t more =>
      obtain ⟨ht, hm⟩ := List.cons.inj hm
      have hn : take ⟨frames, none⟩ t = some ⟨frames, some (.ofToken .reference t)⟩ := by
        simp only [take, takeOperand, ht]
      rw [takes_cons, hn]
      exact takes_closings frames _ more hm

end Reading

theorem represents_start : Represents .start [] := .needing .nil

/-- The reader finishes on a sentence and nothing else, with the phrase derived. -/
theorem finishes_iff {tokens : List Token} {phrase : Phrase} :
    (∃ reading, Reading.start.takes tokens = some reading ∧ reading.finish? = some phrase) ↔
      ∃ s : Sentence, s.yield = tokens ∧ s.piece.phrase = phrase := by
  constructor
  · rintro ⟨reading, ht, hf⟩
    exact Reading.finish?_of_represents (represents_start.takes ht) hf
  · rintro ⟨s, rfl, rfl⟩
    exact Reading.takes_sentence s

theorem isSentence_of_ending {tokens more : List Token} {reading : Reading}
    (ht : Reading.start.takes tokens = some reading) (hm : more.map Token.kind = reading.ending) :
    IsSentence (tokens ++ more) := by
  obtain ⟨last, phrase, hl, hf⟩ := Reading.takes_ending hm
  have hall : Reading.start.takes (tokens ++ more) = some last := by
    rw [Reading.takes_append, ht, Option.bind_some, hl]
  obtain ⟨s, hs, -⟩ := finishes_iff.mp ⟨last, hall, hf⟩
  exact ⟨s, hs⟩

/-- The reader takes exactly the starts of sentences. -/
theorem viable_iff {tokens : List Token} :
    Viable tokens ↔ ∃ reading, Reading.start.takes tokens = some reading := by
  constructor
  · rintro ⟨more, s, hs⟩
    obtain ⟨last, hl, -⟩ := Reading.takes_sentence s
    rw [hs, Reading.takes_append] at hl
    obtain ⟨reading, ht, -⟩ := Option.bind_eq_some_iff.mp hl
    exact ⟨reading, ht⟩
  · rintro ⟨reading, ht⟩
    refine ⟨reading.ending.map fun kind => ⟨kind, [], 0⟩, isSentence_of_ending ht ?_⟩
    rw [List.map_map]
    exact List.map_id _

/-- A sentence is finished with one phrase only, whichever way it is derived. -/
theorem phrase_unique {s t : Sentence} (h : s.yield = t.yield) :
    s.piece.phrase = t.piece.phrase := by
  obtain ⟨r₁, h₁, f₁⟩ := Reading.takes_sentence s
  obtain ⟨r₂, h₂, f₂⟩ := Reading.takes_sentence t
  rw [h, h₂] at h₁
  cases h₁
  exact Option.some.inj (f₁.symm.trans f₂)

end Reckoner
