import Reckoner.Proofs.Grammar.Children
import Reckoner.Proofs.Grammar.Printing
import Reckoner.Proofs.Number.Literal
import Reckoner.Proofs.Program.Locality

/-! # Compiling what a program prints

The text of a program compiles. It gives the program's tree again, up to spans, unless a callee is a
negation or a literal is infinite.
-/
namespace Reckoner
open Token (Covers)
variable {η : Type}

/-- Each finite number of the tree is written as a numeral that is read as it. -/
def Node.Recoverable (node : Node η) : Prop :=
  ∀ x span, .value (.number x) span ∈ node.preorder → x.isFinite = true →
    Token.Numeral (Written.number x) ∧ Decimal.readLoose? (Written.number x) = some x

theorem Token.legible {t : Token} (ht : Spells t.kind t.text) (ho : t.isOperand = true)
    (h : ∀ x, (t.value : Value η) = .number x → x.isFinite = true →
      Numeral (Written.number x) ∧ Decimal.readLoose? (Written.number x) = some x) :
    (t.value : Value η).Legible := by
  by_cases hk : t.kind = .number
  · have hv : (t.value : Value η) = .number (Derivation.numberOf t) := if_pos hk
    rw [hv]
    rcases Derivation.numberOf_cases ht hk with hx | hx
    · rw [hx]
      exact .inl ⟨Binary64.isInf_infinity, Written.number_infinity⟩
    · exact .inr ⟨Binary64.isInf_of_isFinite hx, h _ hv hx⟩
  · have hv : (t.value : Value η) = .reference t.text := if_neg hk
    have hname : t.kind = .name := by simpa [isOperand, hk] using ho
    rw [hname] at ht
    rw [hv]
    exact ht

theorem Derivation.printed_tree {source : Text} {d : Sentence} (hd : Covers source d.yield)
    (hx : (d.tree : Node η).Recoverable) : (d.tree : Node η).Printed := by
  refine Node.printed _ fun n hn v span hv => ?_
  subst hv
  obtain ⟨level, e, he, -, hi⟩ := d.hasPart hn
  obtain ⟨t, ht, ho, rfl⟩ := e.exists_operand he
  refine Token.legible (hd.laid.spelled t (hi.subset ht)) ho fun x hv => ?_
  rw [hv] at hn
  exact hx x span hn

namespace Program
variable {limits : Limits} {source : Source} {program : Program η}

theorem exists_reading (h : compile limits source = .ok program) (hx : program.root.Recoverable) :
    ∃ d : Sentence, Covers program.written d.yield ∧ d.extent = program.root.printedExtent ∧
      (d.tree : Node η).bare = program.root.reread := by
  obtain ⟨d, hd, -, hp⟩ := compile_eq_ok_iff.mp (compile_source h)
  have hr : program.root = d.tree := congrArg Program.root hp
  have hprinted : program.root.Printed := by
    rw [hr] at hx ⊢
    exact Derivation.printed_tree hd hx
  obtain ⟨e, last, hreads, htree, hnest⟩ := hprinted.unary 0 Token.ends_nil
  rw [List.append_nil] at hreads
  exact ⟨.product (.unary e), hreads.covers, hnest, htree⟩

/-- A program of any height that a limit allows twice is printed as a source that compiles under it,
but for minus signs in callees, which may each take one more. The tree is the same up to spans
exactly if no callee is a negation and no literal is infinite, and programs of such trees that print
the same have the same tree. -/
theorem compile_written (h : compile limits source = .ok program)
    (hx : program.root.Recoverable) :
    (∀ again : Limits,
      again.Allow ⟨2 * program.root.height, 2 * program.root.height⟩ ∧
          (∀ n ∈ program.root.preorder, n.isSignedCall = false) ∨
        again.Allow ⟨2 * program.root.height + program.root.preorder.countP Node.isNegation,
          2 * program.root.height + program.root.preorder.countP Node.isNegation⟩ →
      ∃ reread : Program η, compile again (.ofText program.written) = .ok reread ∧
        (reread.root.bare = program.root.bare ↔ program.root.Faithful)) ∧
    ∀ (others : Limits) (text : Source) (other : Program η), compile others text = .ok other →
      other.root.Recoverable → program.root.Faithful → other.root.Faithful →
      other.written = program.written → other.root.bare = program.root.bare := by
  obtain ⟨d, hd, hn, ht⟩ := exists_reading h hx
  constructor
  · intro again hagain
    have ha : again.Allow d.extent := by
      rw [hn]
      rcases hagain with ⟨ha, hs⟩ | ha
      · exact ha.mono (Node.printedExtent_le hs)
      · exact ha.mono program.root.printedExtent_le_negations
    refine ⟨⟨program.written, d.tree⟩, (compile_sentence hd).1 ha, ?_⟩
    rw [ht]
    exact program.root.reread_eq_bare_iff
  · intro others text other ho hox hf hof hw
    obtain ⟨e, he, -, hte⟩ := exists_reading ho hox
    rw [hw] at he
    -- both are read from one text, which has one derivation
    have hed : e = d := derivation_unique (he.unique hd)
    rw [← Node.reread_of_faithful hf, ← Node.reread_of_faithful hof, ← ht, ← hte, hed]

/-- A sum is printed in parentheses, and with a decimal. -/
theorem compile_written_sum :
    ∃ program : Program Unit, compile (.ofNesting 1) (.ofText "1+x".toList) = .ok program ∧
      program.written = "(1.0 + x)".toList ∧
      ∃ reread : Program Unit, compile (.ofNesting 2) (.ofText program.written) = .ok reread ∧
        reread.root.bare = program.root.bare := by
  let one : Token := ⟨.number, ['1'], 0⟩
  let d : Sentence := .add .plus (.product (.unary (.applied (.atom (.number one rfl)))))
    ⟨.plus, ['+'], 1⟩ (.unary (.applied (.atom (.name ⟨.name, ['x'], 2⟩ rfl)))) (.inl rfl) rfl
  have hd : Covers "1+x".toList d.yield := Token.covers_iff.mpr rfl
  have h : compile (.ofNesting 1) (.ofText "1+x".toList) = .ok (⟨_, d.tree⟩ : Program Unit) :=
    (compile_sentence hd).1 ⟨by decide, by decide⟩
  have hp : (d.tree : Node Unit).preorder = [d.tree,
    .value (.number (Derivation.numberOf one)) (some ⟨0, 1⟩),
    .value (.reference ['x']) (some ⟨2, 3⟩)] := rfl
  have hw : Written.number (Derivation.numberOf one) = "1.0".toList := by decide +kernel
  have hx : (d.tree : Node Unit).Recoverable := by
    intro x span hmem _
    have hx : x = Derivation.numberOf one ∧ span = some ⟨0, 1⟩ := by
      rw [hp] at hmem
      simpa [d, Derivation.tree] using hmem
    rw [hx.1, hw]
    exact ⟨(@Token.numeral_take "1.0".toList (by decide)).2, rfl⟩
  refine ⟨_, h, ?_, ?_⟩
  · change '(' :: Written.number (Derivation.numberOf one) ++ _ ++ _ ++ _ = _
    rw [hw]
    rfl
  · have hf : (d.tree : Node Unit).Faithful := by
      rw [Node.Faithful, hp]
      refine List.forall_mem_cons.mpr ⟨⟨rfl, rfl⟩, List.forall_mem_cons.mpr ⟨⟨rfl, ?_⟩, ?_⟩⟩
      · decide +kernel
      · exact List.forall_mem_singleton.mpr ⟨rfl, rfl⟩
    obtain ⟨reread, hr, hb⟩ := (compile_written h hx).1 (.ofNesting 2)
      (.inl ⟨⟨by decide, by decide⟩, fun n hn => (hf n hn).1⟩)
    exact ⟨reread, hr, hb.mpr hf⟩

/-- Twice the height is too low a limit when a callee has many signs, whatever room the stack has.
-/
theorem signed_callee_too_deep :
    ∃ program : Program Unit,
      compile (.ofNesting 8) (.ofText "(----f)((((x+x)+x)+x)+x)".toList) = .ok program ∧
      program.root.height = 5 ∧ program.root.Recoverable ∧
      ∀ again : Limits, again.nesting = 12 → ∃ error : ParseError, error.kind = .nestingTooDeep ∧
        (compile again (.ofText program.written) : Except Node.Fault (Program Unit)) =
          .error (.source error) := by
  let name (c : Char) (start : Nat) : Derivation (.expression .applied) :=
    .atom (.name ⟨.name, [c], start⟩ rfl)
  let minus (start : Nat) (d : Derivation (.expression .unary)) : Derivation (.expression .unary) :=
    .negate ⟨.minus, ['-'], start⟩ d rfl
  let sum (d : Derivation (.expression .applied)) (start : Nat) : Sentence :=
    .add .plus (.product (.unary (.applied d))) ⟨.plus, ['+'], start⟩
      (.unary (.applied (name 'x' (start + 1)))) (.inl rfl) rfl
  let parens (start : Nat) (d : Sentence) (last : Nat) : Derivation (.expression .applied) :=
    .atom (.parens ⟨.openParen, ['('], start⟩ d ⟨.closeParen, [')'], last⟩ rfl rfl)
  let callee := parens 0 (.product (.unary (minus 1 (minus 2 (minus 3 (minus 4
    (.applied (name 'f' 5)))))))) 6
  let argument := sum (parens 8 (sum (parens 9 (sum (parens 10 (sum (name 'x' 11) 12) 14) 15) 17)
    18) 20) 21
  let d : Sentence := .product (.unary (.applied (.call callee ⟨.openParen, ['('], 7⟩
    (.first argument) ⟨.closeParen, [')'], 23⟩ rfl rfl)))
  have hd : Covers "(----f)((((x+x)+x)+x)+x)".toList d.yield := Token.covers_iff.mpr rfl
  have h : compile (.ofNesting 8) (.ofText "(----f)((((x+x)+x)+x)+x)".toList) =
    .ok (⟨_, d.tree⟩ : Program Unit) := (compile_sentence hd).1 ⟨by decide, by decide⟩
  have hx : (d.tree : Node Unit).Recoverable := by
    intro x span hmem
    simp [d, callee, argument, parens, sum, minus, name, Derivation.tree, Node.withSpan,
      Node.preorder, Node.preorderAll] at hmem
  have hheight : (d.tree : Node Unit).height = 5 := by decide +kernel
  have hnest : (d.tree : Node Unit).printedExtent.levels = 13 := by decide +kernel
  refine ⟨_, h, hheight, hx, ?_⟩
  intro again hagain
  obtain ⟨e, he, hn, -⟩ := exists_reading h hx
  refine (compile_sentence he).2 fun ha => ?_
  have hle := ha.1
  rw [hn, hnest] at hle
  omega

end Program

end Reckoner
