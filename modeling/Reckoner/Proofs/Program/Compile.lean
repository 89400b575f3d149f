import Reckoner.Proofs.Grammar.Lowering
import Reckoner.Proofs.Program.Standing

/-! # What compiles

The sources that compile are those whose tokens derive from the grammar, with a nesting that both
limits allow: so many levels, and the places on the stack that these take. The program is the tree
of the derivation, and there is one derivation only. A configured limit that is large enough is not
sufficient by itself.
-/
namespace Reckoner
open Token (Reads Covers)

namespace Program
variable {η : Type} {limits : Limits} {source : Text}

theorem compile_ofText (limits : Limits) (source : Text) :
    (compile limits (.ofText source) : Except Node.Fault (Program η)) = ofText limits source := by
  simp only [compile, Source.ofText, Source.text, CodePoint.characters?_ofText]

theorem compile_fault {fault : SyntaxFault} (h : Phrase.read source = .error fault) :
    (compile limits (.ofText source) : Except Node.Fault (Program η)) =
      .error (.source (.ofFault source fault)) := by
  rw [compile_ofText, ofText, h]

/-- The error in compiling a sentence that an obstacle keeps from being lowered. Where the stack is
exhausted, no place in the source is known. -/
def depthError (limits : Limits) (source : Text) : Obstacle → ParseError
  | .level t => .located (.nestingLimit limits.nesting) (CodePoint.ofText source) t.start
  | .stack => .located .stackExhausted (CodePoint.ofText source) 0

theorem depthError_kind (limits : Limits) (source : Text) (obstacle : Obstacle) :
    (depthError limits source obstacle).kind = .nestingTooDeep := by
  cases obstacle <;> rfl

/-- Compiling a sentence gives the tree of its derivation unless something is nested too deep. -/
theorem compile_derivation {d : Sentence} (h : Covers source d.yield) :
    (compile limits (.ofText source) : Except Node.Fault (Program η)) =
      match d.excess limits 0 with
      | none => .ok ⟨source, d.tree⟩
      | some obstacle => .error (.source (depthError limits source obstacle)) := by
  obtain ⟨last, hr⟩ := (Standing.Holds.sentence h).read
  have hl : Node.lower limits source 0 d.piece.phrase =
      Node.verdict limits source (d.tree (η := η)) (d.excess limits 0) :=
    d.lowering_eq 0 h.laid
  rw [compile_ofText, ofText, hr]
  simp only [Standing.outcome, hl]
  cases d.excess limits 0 with
  | none => rfl
  | some obstacle => cases obstacle <;> rfl

theorem compile_sentence {d : Sentence} (h : Covers source d.yield) :
    (limits.Allow d.extent →
      compile limits (.ofText source) = .ok (⟨source, d.tree⟩ : Program η)) ∧
    (¬limits.Allow d.extent → ∃ error : ParseError, error.kind = .nestingTooDeep ∧
      (compile limits (.ofText source) : Except Node.Fault (Program η)) =
        .error (.source error)) := by
  have hn : d.excess limits 0 = none ↔ limits.Allow (0 + d.extent) := d.excess_eq_none_iff 0
  rw [Depth.zero_add] at hn
  rw [compile_derivation h, ← hn]
  cases he : d.excess limits 0 with
  | none => exact ⟨fun _ => rfl, fun h => absurd rfl h⟩
  | some obstacle => exact ⟨nofun, fun _ => ⟨_, depthError_kind limits source obstacle, rfl⟩⟩

theorem compile_eq_ok_iff {program : Program η} :
    compile limits (.ofText source) = .ok program ↔
      ∃ d : Sentence, Covers source d.yield ∧ limits.Allow d.extent ∧
        program = ⟨source, d.tree⟩ := by
  constructor
  · intro h
    obtain ⟨standing, hs⟩ := Standing.exists_holds source
    obtain ⟨last, hr⟩ := hs.read
    cases hs with
    | @sentence d hd =>
      have hc := @compile_sentence η limits source d hd
      by_cases ha : limits.Allow d.extent
      · rw [hc.1 ha] at h
        exact ⟨d, hd, ha, (Except.ok.inj h).symm⟩
      · obtain ⟨error, -, he⟩ := hc.2 ha
        rw [he] at h
        cases h
    | _ =>
      rw [compile_fault hr] at h
      cases h
  · rintro ⟨d, hd, ha, rfl⟩
    exact (compile_sentence hd).1 ha

/-- A source compiles exactly if its tokens derive from the grammar with a nesting that both limits
allow, and then to the tree of the derivation. It has one sequence of tokens and that has one
derivation at most, and each of its numerals is a number. -/
theorem compiles_exactly_sentences (limits : Limits) (source : Text) :
    (∀ program : Program η, compile limits (.ofText source) = .ok program ↔
      ∃ d : Sentence, Covers source d.yield ∧ limits.Allow d.extent ∧
        program = ⟨source, d.tree⟩) ∧
    (∀ tokens others, Covers source tokens → Covers source others → tokens = others) ∧
    (∀ d e : Sentence, d.yield = e.yield → d = e) ∧
    ∀ tokens, Covers source tokens → ∀ t ∈ tokens, t.kind = .number →
      Decimal.readLoose? t.text = some (Derivation.numberOf t) := by
  refine ⟨fun program => compile_eq_ok_iff, fun tokens others h ho => h.unique ho,
    fun d e h => derivation_unique h, fun tokens h t ht hk => ?_⟩
  have hs : Token.Spells t.kind t.text := h.laid.spelled t ht
  rw [hk] at hs
  obtain ⟨x, hx⟩ := Decimal.readLoose?_of_numeral hs
  rw [Derivation.numberOf, hx, Option.getD_some]

/-! ## Deep parentheses -/

def nested (c : Char) (depth : Nat) : Text :=
  List.replicate depth '(' ++ c :: List.replicate depth ')'

section Nested
variable {kind : Token.Kind} {c : Char}

/-- The parentheses close in the order they opened; `more` of them are left for others. -/
theorem reads_nested (hk : kind = .number ∨ kind = .name)
    (hm : ∀ n, Token.Munch kind [c] (c :: List.replicate n ')')) (depth more offset : Nat) :
    ∃ (d : Derivation (.expression .atom)) (last : Nat), d.extent = ⟨depth, depth⟩ ∧
      Reads offset (List.replicate depth '(' ++ c :: List.replicate (depth + more) ')') d.yield
        last (List.replicate more ')') ∧
      (kind = .number → ∃ x span, (d.tree : Node η) = .value (.number x) span) := by
  induction depth generalizing more offset with
  | zero =>
    rw [Nat.zero_add]
    have hr : Reads offset (c :: List.replicate more ')') [⟨kind, [c], offset⟩] (offset + 1)
        (List.replicate more ')') := .token (hm more) (.stop _ _)
    rcases hk with rfl | rfl
    · exact ⟨.number ⟨.number, [c], offset⟩ rfl, offset + 1, rfl, hr, fun _ => ⟨_, _, rfl⟩⟩
    · exact ⟨.name ⟨.name, [c], offset⟩ rfl, offset + 1, rfl, hr, nofun⟩
  | succ depth ih =>
    obtain ⟨d, last, hn, hd, ht⟩ := ih (more + 1) (offset + 1)
    have hclose : Reads last (List.replicate (more + 1) ')') [⟨.closeParen, [')'], last⟩]
        (last + 1) (List.replicate more ')') := .token (Token.munch_mark rfl _) (.stop _ _)
    have hall := hd.append hclose
    rw [Nat.add_left_comm, Nat.add_comm more] at hall
    refine ⟨.parens ⟨.openParen, ['('], offset⟩ (.product (.unary (.applied (.atom d))))
      ⟨.closeParen, [')'], last⟩ rfl rfl, last + 1, congrArg (Depth.below · 1) hn, ?_, fun hk => ?_⟩
    · rw [List.replicate_succ, List.cons_append]
      exact .token (Token.munch_mark rfl _) hall
    · obtain ⟨x, span, he⟩ := ht hk
      exact ⟨x, _, congrArg (Node.withSpan _) he⟩

theorem exists_nested (hk : kind = .number ∨ kind = .name)
    (hm : ∀ n, Token.Munch kind [c] (c :: List.replicate n ')')) (depth : Nat) :
    ∃ d : Sentence, Covers (nested c depth) d.yield ∧ d.extent = ⟨depth, depth⟩ := by
  obtain ⟨d, last, hn, hr, -⟩ := @reads_nested Unit kind c hk hm depth 0 0
  exact ⟨.product (.unary (.applied (.atom d))), hr.covers, hn⟩

end Nested

theorem munch_one (n : Nat) : Token.Munch .number ['1'] ('1' :: List.replicate n ')') := by
  cases n <;> exact Token.munch_iff.mpr ⟨rfl, rfl⟩

theorem exists_nested_one (depth : Nat) : ∃ d : Sentence, Covers (nested '1' depth) d.yield ∧
    d.extent = ⟨depth, depth⟩ ∧ ∃ x span, (d.tree : Node η) = .value (.number x) span := by
  obtain ⟨d, last, hn, hr, ht⟩ := @reads_nested η .number '1' (.inl rfl) munch_one depth 0 0
  exact ⟨.product (.unary (.applied (.atom d))), hr.covers, hn, ht rfl⟩

/-- The configured limit allows for these parentheses, but they do not compile. -/
theorem nested_one_refused :
    (∃ d : Sentence, Covers (nested '1' 3000) d.yield ∧
      d.extent.levels ≤ (Limits.ofNesting 10000).nesting) ∧
    ∀ program : Program Unit,
      compile (Limits.ofNesting 10000) (.ofText (nested '1' 3000)) ≠ .ok program := by
  obtain ⟨d, hd, hn⟩ := exists_nested (.inl rfl) munch_one 3000
  refine ⟨⟨d, hd, ?_⟩, fun program hp => ?_⟩
  · rw [hn]
    decide
  · obtain ⟨e, he, ha, -⟩ := compile_eq_ok_iff.mp hp
    rw [← derivation_unique (hd.unique he), hn] at ha
    exact absurd ha.2 (by decide)

end Program

end Reckoner
