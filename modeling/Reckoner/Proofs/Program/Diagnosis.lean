import Reckoner.Proofs.Program.Compile

/-! # What is reported about a source

The way a source stands decides what compiling it ends in: the error, its offset and what it quotes.
A source that breaks off can be completed after a blank, with an operand where one is missing and
an end for every bracket that is open.
-/
namespace Reckoner
open Token (Reads Covers)

namespace Token

theorem munch_x (n : Nat) : Munch .name ['x'] ('x' :: List.replicate n ')') := by
  cases n <;> exact munch_iff.mpr ⟨rfl, rfl⟩

theorem reads_closings (n offset : Nat) : ∃ (tokens : List Token) (last : Nat),
    Reads offset (List.replicate n ')') tokens last [] ∧
      tokens.map Token.kind = List.replicate n .closeParen := by
  induction n generalizing offset with
  | zero => exact ⟨[], offset, .stop _ _, rfl⟩
  | succ n ih =>
    obtain ⟨tokens, last, hr, hk⟩ := ih (offset + 1)
    refine ⟨⟨.closeParen, [')'], offset⟩ :: tokens, last, ?_, ?_⟩
    · exact .token (munch_mark rfl _) hr
    · rw [List.map_cons, hk, List.replicate_succ]

theorem reads_ending (reading : Reading) (offset : Nat) :
    ∃ (text : Text) (tokens : List Token) (last : Nat), Reads offset text tokens last [] ∧
      tokens.map Token.kind = reading.ending := by
  obtain ⟨frames, held⟩ := reading
  generalize hn : Frame.brackets frames = n
  cases held with
  | some p =>
    obtain ⟨tokens, last, hr, hk⟩ := reads_closings n offset
    exact ⟨_, tokens, last, hr, by simpa [Reading.ending, hn] using hk⟩
  | none =>
    obtain ⟨tokens, last, hr, hk⟩ := reads_closings n (offset + 1)
    refine ⟨'x' :: List.replicate n ')', ⟨.name, ['x'], offset⟩ :: tokens, last, ?_, ?_⟩
    · exact .token (munch_x n) hr
    · simpa [Reading.ending, hn] using hk

end Token

theorem exists_completion {source : Text} {tokens : List Token} (h : Covers source tokens)
    (hv : Viable tokens) : ∃ (more : Text) (d : Sentence),
      Covers (source ++ ' ' :: more) d.yield := by
  obtain ⟨reading, ht⟩ := viable_iff.mp hv
  obtain ⟨more, extra, last, hr, hk⟩ := Token.reads_ending reading (source.length + 1)
  obtain ⟨d, hd⟩ := isSentence_of_ending ht hk
  have hb : Blank.isLayout ' ' = true := by decide
  have hall := (Reads.before_layout h hb more).append (.layout hb hr)
  exact ⟨more, d, hd ▸ hall.covers⟩

namespace ParseError

/-- An error of a kind, with a message, that points at an offset of a source. -/
structure Points (error : ParseError) (kind : Kind) (message : Text) (source : Text)
    (offset : Nat) : Prop where
  kind_eq : error.kind = kind
  message_eq : error.message = message
  context_eq : error.context = some ⟨CodePoint.ofText source, offset⟩

theorem located_points (cause : Cause) {source : Text} {offset : Nat}
    (h : offset ≤ source.length) :
    (located cause (CodePoint.ofText source) offset).Points cause.kind cause.message source
      offset := by
  refine ⟨rfl, rfl, ?_⟩
  have hl : (CodePoint.ofText source).length = source.length := List.length_map _
  have hc : max 0 (min (offset : Int) (source.length : Int)) = offset := by omega
  simp only [located, ErrorContext.clamped, hl, hc]

end ParseError

namespace Standing
variable {η : Type}

/-- What compiling a source ends in, by the way the source stands. -/
def Reported (limits : Limits) (source : Text) (outcome : Except Node.Fault (Program η)) :
    Standing → Prop
  | .sentence d =>
    (limits.Allow d.extent ∧ outcome = .ok ⟨source, d.tree⟩) ∨
      ¬limits.Allow d.extent ∧ ∃ error, outcome = .error (.source error) ∧
        error.kind = .nestingTooDeep
  | .unfinished =>
    (∃ error, outcome = .error (.source error) ∧ error.Points .incompleteInput
      "Expression ended unexpectedly".toList source source.length) ∧
    ∃ more depth, ∀ ample : Limits, ample.Allow depth → ∃ program : Program η,
      Program.compile ample (.ofText (source ++ ' ' :: more)) = .ok program
  | .misplaced t =>
    (∃ error, outcome = .error (.source error) ∧ error.Points .unexpectedToken
      ("Unexpected token: ".toList ++ Text.quoted t.text) source t.start) ∧
    t.text = (source.drop t.start).take t.text.length
  | .unreadable offset =>
    ∃ c, source[offset]? = some c ∧
      ∃ error, outcome = .error (.source error) ∧ error.Points .invalidToken
        ("Invalid token: ".toList ++ Text.quoted [c]) source offset

theorem Holds.reported {source : Text} {standing : Standing} (h : standing.Holds source)
    (limits : Limits) :
    standing.Reported limits source
      (Program.compile limits (.ofText source) : Except Node.Fault (Program η)) := by
  obtain ⟨last, hr⟩ := h.read
  cases h with
  | @sentence d h =>
    have hc := @Program.compile_sentence η limits source d h
    by_cases ha : limits.Allow d.extent
    · exact .inl ⟨ha, hc.1 ha⟩
    · obtain ⟨error, hk, he⟩ := hc.2 ha
      exact .inr ⟨ha, error, he, hk⟩
  | @unfinished tokens h hv hn =>
    obtain ⟨more, d, hd⟩ := exists_completion h hv
    refine ⟨⟨_, Program.compile_fault hr, ?_⟩, more, d.extent, fun ample ha => ?_⟩
    · exact ParseError.located_points .ended (Nat.le_refl _)
    · exact ⟨_, (Program.compile_sentence hd).1 ha⟩
  | @misplaced before t last rest h hv hn =>
    have hm := h.mem (t := t) (by simp)
    have hb := h.laid.bounded t (by simp)
    rw [Token.stop_eq] at hb
    refine ⟨⟨_, Program.compile_fault hr, ?_⟩, hm.2.2.2⟩
    exact ParseError.located_points (.unexpectedToken t.text) (by omega)
  | @unreadable tokens offset rest h hv hs =>
    obtain ⟨⟨c, more, rfl, -⟩, -⟩ := hs
    obtain ⟨-, hle, hdrop⟩ := h.drop
    have hc : source[offset]? = some c := by
      rw [Nat.sub_zero] at hdrop
      rw [← List.head?_drop, ← hdrop, List.head?_cons]
    refine ⟨c, hc, _, Program.compile_fault hr, ?_⟩
    rw [ParseError.ofFault, hc]
    exact ParseError.located_points (.invalidCharacter (some c)) (by omega)

end Standing

namespace Program
variable {η : Type}

/-- Every source stands in one way, and compiling it reports that way: the first fault from the left
at its offset, or the program unless it is nested too deep. -/
theorem compile_reports_standing (limits : Limits) (source : Text) :
    (∃! standing : Standing, standing.Holds source) ∧
      ∀ standing : Standing, standing.Holds source → standing.Reported limits source
        (compile limits (.ofText source) : Except Node.Fault (Program η)) := by
  obtain ⟨standing, hs⟩ := Standing.exists_holds source
  exact ⟨⟨standing, hs, fun other ho => ho.unique hs⟩, fun standing hs => hs.reported limits⟩

/-- Where only the stack does not suffice, its exhaustion is reported at the start of the source. -/
theorem compile_exhausted {limits : Limits} {source : Text} {d : Sentence}
    (h : Covers source d.yield)
    (hl : d.extent.levels ≤ limits.nesting) (hp : limits.stack < d.extent.places) :
    ∃ error : ParseError, (compile limits (.ofText source) : Except Node.Fault (Program η)) =
      .error (.source error) ∧ error.Points .nestingTooDeep
        (ParseError.Cause.message .stackExhausted) source 0 := by
  have hcompile := @compile_derivation η limits source d h
  have he : d.excess limits 0 = some .stack :=
    Derivation.excess_eq_stack (by rwa [Depth.levels_zero, Nat.zero_add])
      (by rwa [Depth.places_zero, Nat.zero_add])
  rw [he] at hcompile
  exact ⟨_, hcompile, ParseError.located_points _ (Nat.zero_le _)⟩

/-- A sentence that the configured limit allows for, and no program. -/
theorem nested_x_refused :
    (∃ d : Sentence, Standing.Holds (nested 'x' 3000) (.sentence d) ∧
      d.extent.levels ≤ (Limits.ofNesting 10000).nesting) ∧
    ∃ error : ParseError, error.kind = .nestingTooDeep ∧
      (compile (Limits.ofNesting 10000) (.ofText (nested 'x' 3000)) :
        Except Node.Fault (Program Unit)) = .error (.source error) := by
  obtain ⟨d, hd, hn⟩ := exists_nested (.inr rfl) Token.munch_x 3000
  refine ⟨⟨d, .sentence hd, ?_⟩, (compile_sentence hd).2 fun ha => ?_⟩
  · rw [hn]
    decide
  · rw [hn] at ha
    exact absurd ha.2 (by decide)

end Program

end Reckoner
