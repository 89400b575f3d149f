import Reckoner.Proofs.Arithmetic.Evaluation
import Reckoner.Proofs.Grammar.Children
import Reckoner.Proofs.Program.Depth
import Reckoner.Proofs.Program.Locality

/-! # Programs that are arithmetic

A program without names and calls gives, in every environment, the number that two stacks compute
from its tokens by precedence. Nothing can go wrong but one thing: a tree may be low enough to be
compiled and too high for the stack to be evaluated.
-/
namespace Reckoner
open Token (Covers Reads)
variable {η : Type}

namespace Derivation

theorem exists_number {d : Sentence} (hn : ∀ t ∈ d.yield, t.kind ≠ .name)
    (hc : ∀ n ∈ (d.tree : Node η).preorder, ∀ callee arguments span,
      n ≠ .call callee arguments span) : ∃ x, (d.tree : Node η).number? = some x := by
  refine (Node.exists_number_iff _).mpr fun n hmem => ?_
  cases n with
  | value v span =>
    obtain ⟨level, e, he, -, hi⟩ := d.hasPart hmem
    obtain ⟨t, ht, ho, rfl⟩ := e.exists_operand he
    have hk : t.kind = .number := by
      have hname := hn t (hi.subset ht)
      simpa [Token.isOperand, hname] using ho
    rw [Token.value, if_pos hk]
    trivial
  | binary => trivial
  | negate => trivial
  | call callee arguments span => exact absurd rfl (hc _ hmem callee arguments span)

end Derivation

namespace Program

/-- An arithmetic program gives the number that two stacks compute from its tokens, whatever its
environment and the functions in it. The limit on nesting that it was compiled with is never
exceeded; what can happen is that the tree is too high for the stack. -/
theorem execute_arithmetic {limits : Limits} {source : Source} {program : Program η}
    (h : compile limits source = .ok program)
    (hn : ∀ t ∈ (Token.scan program.source).tokens, t.kind ≠ .name)
    (hc : ∀ n ∈ program.root.preorder, ∀ callee arguments span,
      n ≠ .call callee arguments span) :
    (∃ x, Stacks.evaluate (Token.scan program.source).tokens = some x ∧
      ∀ running : Limits, running.nesting = limits.nesting →
        ∀ {σ : Type} (calls : Calls σ η) (env : Environment η) (s : σ),
          program.execute calls env running s =
            ⟨if 2 * program.root.height ≤ running.stack then .ok (.number x)
              else .error (.error .stackExhausted), s, []⟩) ∧
    (∀ x y : Float, (y == 0) = true → (x == 0) = true ∨ x.isNaN = true →
      (Operator.apply .divide x y).isNaN = true) ∧
    (∀ x y : Float, (y == 0) = true → (x == 0) = false → x.isNaN = false →
      (Operator.apply .divide x y).isInf = true ∧
        Binary64.isNegative (Operator.apply .divide x y) =
          (Binary64.isNegative x != Binary64.isNegative y)) ∧
    ∀ x y : Float, (y == 0) = false → Operator.apply .divide x y = x / y := by
  refine ⟨?_, fun x y => Operator.quotient_undefined, fun x y => Operator.quotient_infinite,
    fun x y => Operator.quotient_finite⟩
  obtain ⟨d, hd, -, hp⟩ := compile_eq_ok_iff.mp (compile_source h)
  have hs : (Token.scan program.source).tokens = d.yield :=
    congrArg Token.Scan.tokens (Token.covers_iff.mp hd)
  have hr : program.root = d.tree := congrArg Program.root hp
  rw [hs] at hn ⊢
  rw [hr] at hc
  obtain ⟨x, hx⟩ := d.exists_number hn hc
  have hx' : program.root.number? = some x := by rw [hr]; exact hx
  refine ⟨x, d.evaluate_yield hx, fun running hnest σ calls env s => ?_⟩
  exact execute_number hx' (hnest ▸ compile_height h) calls env s

/-- The product is computed before the difference. -/
theorem execute_arithmetic_mixed :
    ∃ program : Program Unit, compile (.ofNesting 2) (.ofText "1-2*3".toList) = .ok program ∧
      ∃ x, Stacks.evaluate (Token.scan "1-2*3".toList).tokens = some x ∧
        program.execute (fun _ _ s => (.stackExhausted, s)) [] (.ofNesting 2) () =
          ⟨.ok (.number x), (), []⟩ := by
  let one : Derivation (.expression .applied) := .atom (.number ⟨.number, ['1'], 0⟩ rfl)
  let two : Derivation (.expression .applied) := .atom (.number ⟨.number, ['2'], 2⟩ rfl)
  let three : Derivation (.expression .applied) := .atom (.number ⟨.number, ['3'], 4⟩ rfl)
  let d : Sentence := .add .minus (.product (.unary (.applied one))) ⟨.minus, ['-'], 1⟩
    (.multiply .times (.unary (.applied two)) ⟨.star, ['*'], 3⟩ (.applied three) (.inl rfl) rfl)
    (.inr rfl) rfl
  have hd : Covers "1-2*3".toList d.yield := Token.covers_iff.mpr rfl
  have h : compile (.ofNesting 2) (.ofText "1-2*3".toList) = .ok (⟨_, d.tree⟩ : Program Unit) :=
    (compile_sentence hd).1 ⟨by decide, by decide⟩
  obtain ⟨x, hx, he⟩ := (execute_arithmetic h (by decide)
    (by simp [d, one, two, three, Derivation.tree, Node.preorder])).1
  exact ⟨_, h, x, hx, he _ rfl _ _ _⟩

/-! ## Many signs -/

def negated (signs : Nat) : Text := List.replicate signs '-' ++ ['1']

theorem exists_negated (signs offset : Nat) : ∃ d : Derivation (.expression .unary),
    Reads offset (negated signs) d.yield (offset + (signs + 1)) [] ∧ d.extent = ⟨signs, signs⟩ ∧
      (d.tree : Node η).height = signs ∧ (∃ x, (d.tree : Node η).number? = some x) ∧
      ∀ t ∈ d.yield, t.kind ≠ .name := by
  induction signs generalizing offset with
  | zero =>
    have hm : Token.Munch .number ['1'] ['1'] := Token.munch_iff.mpr ⟨rfl, rfl⟩
    refine ⟨.applied (.atom (.number ⟨.number, ['1'], offset⟩ rfl)), .token hm (.stop _ _), rfl,
      rfl, ⟨_, rfl⟩, ?_⟩
    exact List.forall_mem_singleton.mpr nofun
  | succ signs ih =>
    obtain ⟨d, hr, hn, hh, ⟨x, hx⟩, hk⟩ := ih (offset + 1)
    have hm : Token.Munch .minus ['-'] ('-' :: negated signs) := Token.munch_mark rfl _
    refine ⟨.negate ⟨.minus, ['-'], offset⟩ d rfl, ?_, congrArg (Depth.below · 1) hn,
      congrArg (· + 1) hh, ⟨-x, ?_⟩, List.forall_mem_cons.mpr ⟨nofun, hk⟩⟩
    · rw [Nat.add_right_comm, Nat.add_assoc] at hr
      exact .token hm hr
    · rw [Derivation.tree, Node.number?, hx, Option.map_some]

/-- A tree that can be lowered may be too high to be evaluated. -/
theorem negated_one_exhausts :
    ∃ program : Program Unit,
      compile (.ofNesting 10000) (.ofText (negated 600)) = .ok program ∧
      (∀ t ∈ (Token.scan program.source).tokens, t.kind ≠ .name) ∧
      (∀ n ∈ program.root.preorder, ∀ callee arguments span, n ≠ .call callee arguments span) ∧
      ∀ (σ : Type) (calls : Calls σ Unit) (env : Environment Unit) (s : σ),
        (program.execute calls env (.ofNesting 10000) s).result =
          .error (.error .stackExhausted) := by
  obtain ⟨d, hr, hn, hh, ⟨x, hx⟩, hk⟩ := exists_negated (η := Unit) 600 0
  let e : Sentence := .product (.unary d)
  have hd : Covers (negated 600) e.yield := hr.covers
  have ha : (Limits.ofNesting 10000).Allow e.extent := by
    change (Limits.ofNesting 10000).Allow d.extent
    rw [hn]
    exact ⟨by decide, by decide⟩
  refine ⟨⟨_, e.tree⟩, (compile_sentence hd).1 ha, ?_, ?_, fun σ calls env s => ?_⟩
  · rw [Token.covers_iff.mp hd]
    exact hk
  · rintro n hmem callee arguments span rfl
    exact (Node.exists_number_iff _).mp ⟨x, hx⟩ _ hmem
  · have hheight : (⟨negated 600, e.tree⟩ : Program Unit).root.height = 600 := hh
    have hle : (⟨negated 600, e.tree⟩ : Program Unit).root.height ≤
        (Limits.ofNesting 10000).nesting := by
      rw [hheight]
      decide
    rw [execute_number hx hle, hheight, if_neg (by decide)]

end Program

end Reckoner
