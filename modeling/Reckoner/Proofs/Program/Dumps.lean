import Mathlib.Data.Set.Function
import Reckoner.Proofs.Grammar.Children
import Reckoner.Proofs.Node.Dumps
import Reckoner.Proofs.Program.Locality

/-! # Dumps of programs

A dump of a program with finite literals tells its whole tree, spans included, as far as the
literals can be told apart by how they are written. An infinite literal is written as a name.
-/
namespace Reckoner
open Token (Covers)
variable {η : Type}

def Node.HasLiteral (node : Node η) (x : Float) : Prop :=
  ∃ span, .value (.number x) span ∈ node.preorder

theorem Token.told {read : Text → Float} {t : Token} (ht : Spells t.kind t.text)
    (ho : t.isOperand = true) (hf : ∀ x, (t.value : Value η) = .number x →
      x.isFinite = true ∧ read (Written.number x) = x) :
    Node.Findable (t.value : Value η).written ∧
      Node.leaf read (t.value : Value η).written = (t.value : Value η) := by
  by_cases hk : t.kind = .number
  · have hv : (t.value : Value η) = .number (Derivation.numberOf t) := if_pos hk
    obtain ⟨hfin, hread⟩ := hf _ hv
    rw [hv]
    exact ⟨Node.findable_number hfin, Node.leaf_number hfin hread⟩
  · have hv : (t.value : Value η) = .reference t.text := if_neg hk
    have hkind : t.kind = .name := by simpa [isOperand, hk] using ho
    rw [hkind] at ht
    rw [hv]
    exact ⟨Node.findable_name ht, Node.leaf_name ht⟩

theorem Derivation.told_tree {read : Text → Float} {source : Text} {d : Sentence}
    (hd : Covers source d.yield) (hf : ∀ x, (d.tree : Node η).HasLiteral x →
      x.isFinite = true ∧ read (Written.number x) = x) :
    ∀ n ∈ (d.tree : Node η).preorder, n.Told read := by
  intro n hn
  obtain ⟨level, e, rfl, -, hi⟩ := d.hasPart hn
  have hvalue : ∀ (v : Value η) span, e.tree = .value v span →
      Node.Findable v.written ∧ Node.leaf read v.written = v := by
    intro v span hv
    obtain ⟨t, ht, ho, rfl⟩ := e.exists_operand hv
    refine Token.told (hd.laid.spelled t (hi.subset ht)) ho fun x hx => hf x ⟨span, ?_⟩
    rw [← hx, ← hv]
    exact hn
  refine ⟨⟨e.span, e.tree_span⟩, ?_, fun v span hv => (hvalue v span hv).2⟩
  by_cases hv : ∃ v span, (e.tree : Node η) = .value v span
  · obtain ⟨v, span, hv⟩ := hv
    rw [hv]
    exact (hvalue v span hv).1
  · exact Node.findable_label fun v span he => hv ⟨v, span, he⟩

namespace Program
variable {limits : Limits} {source : Source} {program : Program η}

theorem told_of_compile {read : Text → Float} (h : compile limits source = .ok program)
    (hf : ∀ x, program.root.HasLiteral x → x.isFinite = true)
    (hr : ∀ x, program.root.HasLiteral x → read (Written.number x) = x) :
    ∀ n ∈ program.root.preorder, n.Told read := by
  obtain ⟨d, hd, -, hp⟩ := compile_eq_ok_iff.mp (compile_source h)
  have ht : program.root = d.tree := congrArg Program.root hp
  rw [ht] at hf hr ⊢
  exact Derivation.told_tree hd fun x hx => ⟨hf x hx, hr x hx⟩

/-- Each node has one line in the dump of a program, in preorder, and the tree is read back from
these lines alone, by whatever tells the literals from how they are written. So programs with the
same dump have the same tree, spans included, if no two of their literals are written alike. -/
theorem dump_faithful (h : compile limits source = .ok program)
    (hf : ∀ x, program.root.HasLiteral x → x.isFinite = true) :
    (program.root.placed 0).map Prod.snd = program.root.preorder ∧
    (∀ read : Text → Float,
      (∀ x, program.root.HasLiteral x → read (Written.number x) = x) →
        Text.lines program.dump = (program.root.placed 0).map (fun a => Node.line a.1 a.2) ∧
        Node.ofDump? read program.dump = some program.root) ∧
    ∀ (others : Limits) (text : Source) (other : Program η), compile others text = .ok other →
      (∀ x, other.root.HasLiteral x → x.isFinite = true) →
      Set.InjOn Written.number {x | program.root.HasLiteral x ∨ other.root.HasLiteral x} →
      program.dump = other.dump → program.root = other.root := by
  refine ⟨Node.map_snd_placed 0 _, fun read hr => ?_, fun others text other ho hof hi he => ?_⟩
  · have ht := told_of_compile h hf hr
    exact ⟨Node.lines_dump ht, Node.ofDump?_dump ht⟩
  · have hl := hi.leftInvOn_invFunOn
    have ht := told_of_compile h hf fun x hx => hl (.inl hx)
    have hto := told_of_compile ho hof fun x hx => hl (.inr hx)
    have hroot := (Node.ofDump?_dump ht).symm.trans ((congrArg (Node.ofDump? _) he).trans
      (Node.ofDump?_dump hto))
    exact Option.some.inj hroot

/-- A reference to a function and a call are told apart by what is below them. -/
theorem dump_faithful_function :
    ∃ program : Program Unit,
      compile (.ofNesting 8) (.ofText "function(function, 1)".toList) = .ok program ∧
      program.dump =
        "function [0..21]\n  function [0..8]\n  function [9..17]\n  1.0 [19..20]".toList ∧
      Node.ofDump? (fun _ => 1.0) program.dump = some program.root := by
  let one : Token := ⟨.number, ['1'], 19⟩
  let name (start : Nat) : Derivation (.expression .applied) :=
    .atom (.name ⟨.name, "function".toList, start⟩ rfl)
  let sum (d : Derivation (.expression .applied)) : Sentence := .product (.unary (.applied d))
  let d : Sentence := sum (.call (name 0) ⟨.openParen, ['('], 8⟩
    (.next (.first (sum (name 9))) ⟨.comma, [','], 17⟩ (sum (.atom (.number one rfl))) rfl)
    ⟨.closeParen, [')'], 20⟩ rfl rfl)
  have hd : Covers "function(function, 1)".toList d.yield := Token.covers_iff.mpr rfl
  have h : compile (.ofNesting 8) (.ofText "function(function, 1)".toList) =
    .ok (⟨_, d.tree⟩ : Program Unit) := (compile_sentence hd).1 ⟨by decide, by decide⟩
  have hl : ∀ x, (d.tree : Node Unit).HasLiteral x → x = Derivation.numberOf one := by
    rintro x ⟨span, hx⟩
    have hp : (d.tree : Node Unit).preorder = [d.tree,
      .value (.reference "function".toList) (some ⟨0, 8⟩),
      .value (.reference "function".toList) (some ⟨9, 17⟩),
      .value (.number (Derivation.numberOf one)) (some ⟨19, 20⟩)] := rfl
    rw [hp] at hx
    have hx : x = Derivation.numberOf one ∧ span = some ⟨19, 20⟩ := by
      simpa [d, sum, name, Derivation.tree, Node.withSpan] using hx
    exact hx.1
  have hone : Derivation.numberOf one = 1.0 := by decide +kernel
  have hf : ∀ x, (d.tree : Node Unit).HasLiteral x → x.isFinite = true := by
    intro x hx
    rw [hl x hx]
    decide +kernel
  exact ⟨_, h, by decide +kernel,
    ((dump_faithful h hf).2.1 (fun _ => 1.0) fun x hx => hone.symm.trans (hl x hx).symm).2⟩

end Program

end Reckoner
