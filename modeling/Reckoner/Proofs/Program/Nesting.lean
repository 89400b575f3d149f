import Reckoner.Proofs.Grammar.Productions
import Reckoner.Proofs.Program.Diagnosis
import Reckoner.Proofs.Program.Encoding

/-! # The limit of nesting is exact

A source that is read compiles exactly if limits allow for every production of its phrase, and to
the same program under all such limits. As long as the stack has places for what is one level too
deep, the limit of nesting alone decides: then the leftmost production that is one too deep is
reported, and lowering has nothing else to complain about. A source that is not read is refused for
that, however deep it is nested before or after its fault.
-/
namespace Reckoner
open Token (Covers Reads)

theorem Phrase.exists_derivation {source : Text} {phrase : Phrase}
    (h : Phrase.read source = .ok phrase) :
    ∃ d : Sentence, Covers source d.yield ∧ d.piece.phrase = phrase := by
  obtain ⟨standing, hs⟩ := Standing.exists_holds source
  obtain ⟨last, hr⟩ := hs.read
  rw [h] at hr
  cases hs with
  | @sentence d hd => exact ⟨d, hd, (Except.ok.inj hr).symm⟩
  | _ => cases hr

theorem ParseError.ofFault_kind (source : Text) (fault : SyntaxFault) :
    (ParseError.ofFault source fault).kind ≠ .nestingTooDeep := by
  cases fault with
  | character | ended => exact nofun
  | token kind text start => cases start <;> exact nofun
  | other shown offset => cases offset <;> exact nofun

/-- The stack has places for the productions that are at most one level too deep. -/
def Phrase.Fits (phrase : Phrase) (limits : Limits) : Prop :=
  ∀ p ∈ phrase.productions 0, p.depth.levels ≤ limits.nesting + 1 → p.depth.places ≤ limits.stack

namespace Program
variable {η : Type}

/-- Compiling the text of a phrase ends as limits demand: in the program if they allow for all
productions, and else in an excess of depth. -/
structure Settled (limits : Limits) (text : Text) (phrase : Phrase) (root : Node η)
    (outcome : Except Node.Fault (Program η)) : Prop where
  compiles : (∀ p ∈ phrase.productions 0, limits.Allow p.depth) → outcome = .ok ⟨text, root⟩
  refused : ∀ p ∈ phrase.productions 0, ¬limits.Allow p.depth → ∃ error,
    outcome = .error (.source error) ∧ error.kind = .nestingTooDeep

/-- Compiling the text of a phrase ends as the depths of its productions demand. -/
structure Gauged (limits : Limits) (text : Text) (phrase : Phrase) (root : Node η)
    (outcome : Except Node.Fault (Program η)) : Prop where
  compiles_iff : (∃ program, outcome = .ok program) ↔
    ∀ p ∈ phrase.productions 0, p.depth.levels ≤ limits.nesting
  program_eq : ∀ program, outcome = .ok program → program = ⟨text, root⟩
  refused : ∀ p ∈ phrase.productions 0, limits.nesting < p.depth.levels → ∃ error offset first,
    outcome = .error (.source error) ∧
      error.Points .nestingTooDeep (ParseError.Cause.nestingLimit limits.nesting).message text
        offset ∧
      first.start? = some (offset : Int) ∧
      Production.Leftmost (phrase.productions 0) (limits.nesting + 1) first

section Derived
variable {d : Sentence} {text : Text} {limits : Limits}

theorem settled_derivation (h : Covers text d.yield) :
    Settled limits text d.piece.phrase (d.tree : Node η) (compile limits (.ofText text)) := by
  have hx := d.excess_leftmost h.laid limits
  rw [compile_derivation h]
  cases he : d.excess limits 0 with
  | none =>
    rw [he] at hx
    exact ⟨fun _ => rfl, fun p hp hn => absurd (hx p hp) hn⟩
  | some obstacle =>
    have hrefused : ∃ p ∈ d.piece.phrase.productions 0, ¬limits.Allow p.depth := by
      rw [he] at hx
      cases obstacle with
      | level t =>
        obtain ⟨-, first, -, hfirst⟩ := hx
        have hlevel := hfirst.level_eq
        exact ⟨first, hfirst.mem, fun ha => absurd ha.1 (by omega)⟩
      | stack =>
        obtain ⟨p, hp, -, hs⟩ := hx
        exact ⟨p, hp, fun ha => absurd ha.2 (Nat.not_le.mpr hs)⟩
    refine ⟨fun hall => ?_, fun p hp hn => ⟨_, rfl, depthError_kind limits text obstacle⟩⟩
    obtain ⟨p, hp, hn⟩ := hrefused
    exact absurd (hall p hp) hn

theorem gauged_derivation (h : Covers text d.yield) (hf : d.piece.phrase.Fits limits) :
    Gauged limits text d.piece.phrase (d.tree : Node η) (compile limits (.ofText text)) := by
  have hx := d.excess_leftmost h.laid limits
  rw [compile_derivation h]
  cases he : d.excess limits 0 with
  | none =>
    rw [he] at hx
    exact ⟨⟨fun _ p hp => (hx p hp).1, fun _ => ⟨_, rfl⟩⟩,
      fun program hp => (Except.ok.inj hp).symm,
      fun p hp hlt => absurd (hx p hp).1 (Nat.not_le.mpr hlt)⟩
  | some obstacle =>
    rw [he] at hx
    cases obstacle with
    | level t =>
      obtain ⟨ht, first, hs, hfirst⟩ := hx
      have hpoints := ParseError.located_points (.nestingLimit limits.nesting) ht
      refine ⟨⟨nofun, fun hall => ?_⟩, nofun,
        fun p hp hlt => ⟨_, t.start, first, rfl, hpoints, hs, hfirst⟩⟩
      have hle := hall first hfirst.mem
      rw [hfirst.level_eq] at hle
      omega
    | stack =>
      obtain ⟨p, hp, hl, hs⟩ := hx
      exact absurd (hf p hp hl) (Nat.not_le.mpr hs)

theorem lower_fault (h : Covers text d.yield) {fault : Node.Fault}
    (hf : (Node.lower limits text 0 d.piece.phrase : Except Node.Fault (Node η)) = .error fault) :
    ∃ obstacle, fault = limits.complaint text obstacle := by
  have hl : Node.lower limits text 0 d.piece.phrase =
      Node.verdict limits text (d.tree (η := η)) (d.excess limits 0) := d.lowering_eq 0 h.laid
  rw [hl] at hf
  cases he : d.excess limits 0 with
  | none =>
    rw [he] at hf
    cases hf
  | some obstacle =>
    rw [he] at hf
    exact ⟨obstacle, (Except.error.inj hf).symm⟩

end Derived

/-- A text that is read as a phrase compiles exactly under the limits that allow for every
production of the phrase, and to one program. Where the stack has places for the productions that
are at most one level too deep, it compiles exactly if none is deeper than the limit of nesting, and
otherwise the leftmost that is one too deep is reported; two places for each level suffice for this.
Whatever the limits, lowering the phrase has no other fault than an excess of depth. A text that is
not read is refused for its syntax under all limits. -/
theorem compile_gauged {source : Source} {text : Text} (h : source.text = .ok text) :
    (∀ phrase, Phrase.read text = .ok phrase → ∃ root : Node η,
      (∀ limits : Limits, Settled limits text phrase root (compile limits source)) ∧
      (∀ limits : Limits, phrase.Fits limits →
        Gauged limits text phrase root (compile limits source)) ∧
      (∀ limits : Limits, 2 * (limits.nesting + 1) ≤ limits.stack → phrase.Fits limits) ∧
      ∀ (limits : Limits) (fault : Node.Fault),
        (Node.lower limits text 0 phrase : Except Node.Fault (Node η)) = .error fault →
          ∃ obstacle, fault = limits.complaint text obstacle) ∧
    ∀ fault, Phrase.read text = .error fault →
      (ParseError.ofFault text fault).kind ≠ .nestingTooDeep ∧
      ∀ limits, (compile limits source : Except Node.Fault (Program η)) =
        .error (.source (.ofFault text fault)) := by
  refine ⟨fun phrase hp => ?_, fun fault hf => ⟨ParseError.ofFault_kind text fault, ?_⟩⟩
  · obtain ⟨d, hd, rfl⟩ := Phrase.exists_derivation hp
    refine ⟨d.tree, fun limits => ?_, fun limits hf => ?_, fun limits hs p hp hl => ?_,
      fun limits fault => lower_fault hd⟩
    · rw [compile_of_text h]
      exact settled_derivation hd
    · rw [compile_of_text h]
      exact gauged_derivation hd hf
    · have hle := d.places_le_of_mem hp
      omega
  · intro limits
    rw [compile_of_text h]
    exact compile_fault hf

/-- The callee and the argument are both one too deep, and the callee is reported. -/
theorem compile_gauged_call : ∃ (phrase : Phrase) (root : Node Unit),
    Phrase.read "-x(y)".toList = .ok phrase ∧
    (phrase.productions 0).map Production.depth = [0, ⟨1, 1⟩, ⟨2, 2⟩, ⟨2, 3⟩] ∧
    Gauged (.ofNesting 1) "-x(y)".toList phrase root
      (compile (.ofNesting 1) (.ofText "-x(y)".toList)) ∧
    (compile (.ofNesting 1) (.ofText "-x(y)".toList) : Except Node.Fault (Program Unit)) =
      .error (.source (.located (.nestingLimit 1) (CodePoint.ofText "-x(y)".toList) 1)) := by
  have hr : Phrase.read "-x(y)".toList = .ok _ := rfl
  have ht : (Source.ofText "-x(y)".toList).text = .ok "-x(y)".toList := Source.text_ofText _
  obtain ⟨root, -, hgauged, hfits, -⟩ := (compile_gauged ht).1 _ hr
  exact ⟨_, root, hr, rfl, hgauged (.ofNesting 1) (hfits _ (by decide)), rfl⟩

/-! ## Arguments in arguments -/

def nestedCalls (depth : Nat) : Text :=
  (List.replicate depth ['f', '(']).flatten ++ 'x' :: List.replicate depth ')'

theorem reads_nestedCalls (depth more offset : Nat) :
    ∃ (d : Derivation (.expression .applied)) (last : Nat), d.extent = ⟨depth, 2 * depth⟩ ∧
      Reads offset ((List.replicate depth ['f', '(']).flatten ++
        'x' :: List.replicate (depth + more) ')') d.yield last (List.replicate more ')') := by
  induction depth generalizing more offset with
  | zero =>
    have hm : Token.Munch .name ['x'] ('x' :: List.replicate (0 + more) ')') := by
      rw [Nat.zero_add]
      exact Token.munch_x more
    rw [Nat.zero_add] at hm ⊢
    exact ⟨.atom (.name ⟨.name, ['x'], offset⟩ rfl), offset + 1, rfl, .token hm (.stop _ _)⟩
  | succ depth ih =>
    obtain ⟨d, last, hn, hd⟩ := ih (more + 1) (offset + 2)
    have hclose : Reads last (List.replicate (more + 1) ')') [⟨.closeParen, [')'], last⟩]
        (last + 1) (List.replicate more ')') := .token (Token.munch_mark rfl _) (.stop _ _)
    have hall := hd.append hclose
    rw [Nat.add_left_comm, Nat.add_comm more] at hall
    have hf (rest : Text) : Token.Munch .name ['f'] ('f' :: '(' :: rest) :=
      Token.munch_iff.mpr ⟨rfl, rfl⟩
    refine ⟨.call (.atom (.name ⟨.name, ['f'], offset⟩ rfl)) ⟨.openParen, ['('], offset + 1⟩
      (.first (.product (.unary (.applied d)))) ⟨.closeParen, [')'], last⟩ rfl rfl, last + 1,
      ?_, ?_⟩
    · change max (Depth.below 0 1) (d.extent.below 2) = _
      rw [hn]
      ext
      · simp
      · simp
        omega
    · rw [List.replicate_succ, List.flatten_cons]
      exact .token (hf _) (.token (Token.munch_mark rfl _) hall)

theorem exists_nestedCalls (depth : Nat) : ∃ d : Sentence,
    Covers (nestedCalls depth) d.yield ∧ d.extent = ⟨depth, 2 * depth⟩ := by
  obtain ⟨d, last, hn, hr⟩ := reads_nestedCalls depth 0 0
  exact ⟨.product (.unary (.applied d)), hr.covers, hn⟩

/-- No production is deeper than the limit, but an argument takes two places on the stack. -/
theorem nested_calls_refused : ∃ phrase,
    Phrase.read (nestedCalls 550) = .ok phrase ∧
    (∀ p ∈ phrase.productions 0, p.depth.levels ≤ 600) ∧
    ∃ error : ParseError,
      (compile (.ofNesting 600) (.ofText (nestedCalls 550)) : Except Node.Fault (Program Unit)) =
        .error (.source error) ∧
      error.Points .nestingTooDeep (ParseError.Cause.message .stackExhausted) (nestedCalls 550)
        0 := by
  obtain ⟨d, hd, hn⟩ := exists_nestedCalls 550
  obtain ⟨last, hr⟩ := (Standing.Holds.sentence hd).read
  have hall : ∀ p ∈ d.piece.phrase.productions 0, (⟨550, 1100⟩ : Limits).Allow p.depth := by
    have hx := d.excess_leftmost hd.laid ⟨550, 1100⟩
    have he : d.excess ⟨550, 1100⟩ 0 = none := by
      rw [d.excess_eq_none_iff, Depth.zero_add, hn]
      decide
    rwa [he] at hx
  refine ⟨d.piece.phrase, hr, fun p hp => (hall p hp).1.trans (by decide), ?_⟩
  exact compile_exhausted hd (by rw [hn]; decide) (by rw [hn]; decide)

end Program
end Reckoner
