import Mathlib.Data.List.Forall2
import Reckoner.Proofs.Grammar.Part

/-! # Children and leaves of a derivation

The children of a node come from derivations over separate runs of the node's tokens, in order,
each one shorter than the whole. The leaves come from the numbers and names among the tokens, one
from each, in order; parentheses around a leaf belong to it.
-/
namespace Reckoner

def Token.isOperand (t : Token) : Bool := t.kind == .number || t.kind == .name

def Token.value {η : Type} (t : Token) : Value η :=
  if t.kind = .number then .number (Derivation.numberOf t) else .reference t.text

theorem Operator.mark_ne (op : Operator) : op.mark ≠ .number ∧ op.mark ≠ .name := by
  cases op <;> exact ⟨nofun, nofun⟩

def Token.operands (tokens : List Token) : List Token := tokens.filter isOperand

theorem Token.operands_append (before after : List Token) :
    operands (before ++ after) = operands before ++ operands after := List.filter_append ..

theorem Token.operands_mark {t : Token} {kind : Kind} (ht : t.kind = kind)
    (hk : kind ≠ .number ∧ kind ≠ .name) (tokens : List Token) :
    operands (t :: tokens) = operands tokens := by
  apply List.filter_cons_of_neg
  simp [isOperand, ht, hk]

theorem Token.operands_single {t : Token} (ht : t.kind = .number ∨ t.kind = .name) :
    operands [t] = [t] := by
  apply List.filter_cons_of_pos
  simp [isOperand, ht]

namespace Node
variable {η : Type}

mutual

def leaves : Node η → List (Node η)
  | .value v span => [.value v span]
  | .binary _ left right _ => left.leaves ++ right.leaves
  | .negate operand _ => operand.leaves
  | .call callee arguments _ => callee.leaves ++ leavesAll arguments

def leavesAll : List (Node η) → List (Node η)
  | [] => []
  | n :: ns => n.leaves ++ leavesAll ns

end

@[simp] theorem leavesAll_eq_flatMap (ns : List (Node η)) : leavesAll ns = ns.flatMap leaves := by
  induction ns with
  | nil => rfl
  | cons n ns ih => simp [leavesAll, ih]

@[simp] theorem children_withSpan (node : Node η) (span : Option Span) :
    (node.withSpan span).children = node.children := by
  cases node <;> rfl

end Node

namespace Category
variable {η : Type}

def children : {c : Category} → c.Of (Node η) → List (Node η)
  | .expression _, node => node.children
  | .arguments, nodes => nodes

def leaves : {c : Category} → c.Of (Node η) → List (Node η)
  | .expression _, node => node.leaves
  | .arguments, nodes => Node.leavesAll nodes

end Category

namespace Derivation
variable {η : Type}

/-- The derivations of the children, or of the arguments. -/
def parts : {c : Category} → Derivation c → List Sentence
  | _, number .. | _, name .. => []
  | _, parens _ inner _ _ _ => inner.parts
  | _, atom d | _, applied d | _, unary d | _, product d => d.parts
  | _, callNone callee _ _ _ _ => [callee.alone]
  | _, call callee _ arguments _ _ _ => callee.alone :: arguments.parts
  | _, negate _ operand _ => [operand.alone]
  | _, multiply _ left _ right _ _ => [left.alone, right.alone]
  | _, add _ left _ right _ _ => [left.alone, right.alone]
  | _, first d => [d]
  | _, next before _ d _ => before.parts ++ [d]

theorem children_tree : ∀ {c : Category} (d : Derivation c),
    Category.children (d.tree : c.Of (Node η)) = d.parts.map tree
  | _, number .. | _, name .. => rfl
  | _, parens _ inner _ _ _ => by
    have hi : Node.children (inner.tree : Node η) = _ := inner.children_tree
    rw [tree, parts, ← hi]
    exact Node.children_withSpan _ _
  | _, atom d | _, applied d | _, unary d | _, product d => d.children_tree
  | _, callNone .. | _, negate .. | _, multiply .. | _, add .. => by
    simp [Category.children, tree, parts, Node.children]
  | _, call callee _ arguments .. => by
    have ha : (arguments.tree : List (Node η)) = _ := arguments.children_tree
    simp [Category.children, tree, parts, Node.children, ha]
  | _, first d => rfl
  | _, next before _ d _ => by
    have hb : (before.tree : List (Node η)) = _ := before.children_tree
    simp [Category.children, tree, parts, hb]

theorem parts_sublist : ∀ {c : Category} (d : Derivation c),
    (d.parts.flatMap yield).Sublist d.yield
  | _, number .. | _, name .. => List.nil_sublist _
  | _, parens opening inner closing _ _ =>
    (inner.parts_sublist.trans (List.sublist_append_left _ _)).cons opening
  | _, atom d | _, applied d | _, unary d | _, product d => d.parts_sublist
  | _, callNone callee opening closing _ _ => by
    simp [parts, yield]
  | _, call callee opening arguments closing _ _ => by
    have ha := arguments.parts_sublist
    simp only [parts, yield, List.flatMap_cons, alone_yield]
    exact .append (List.Sublist.refl _) ((ha.trans (List.sublist_append_left _ _)).cons opening)
  | _, negate .. | _, multiply .. | _, add .. | _, first d => by simp [parts, yield]
  | _, next before comma d _ => by
    simpa [parts, yield] using before.parts_sublist.append ((List.Sublist.refl _).cons comma)

theorem parts_infix : ∀ {c : Category} (d : Derivation c), ∀ p ∈ d.parts, p.yield <:+: d.yield
  | _, number .., p, h | _, name .., p, h => absurd h List.not_mem_nil
  | _, parens opening inner closing _ _, p, h =>
    (inner.parts_infix p h).trans ⟨[opening], [closing], by simp [yield]⟩
  | _, atom d, p, h | _, applied d, p, h | _, unary d, p, h | _, product d, p, h =>
    d.parts_infix p h
  | _, callNone callee opening closing _ _, p, h =>
    ⟨[], [opening, closing], by simp [List.mem_singleton.mp h, yield]⟩
  | _, call callee opening arguments closing _ _, p, h => by
    rcases List.mem_cons.mp h with rfl | h
    · exact ⟨[], opening :: (arguments.yield ++ [closing]), by simp [yield]⟩
    · exact (arguments.parts_infix p h).trans
        ⟨callee.yield ++ [opening], [closing], by simp [yield]⟩
  | _, negate sign operand _, p, h => ⟨[sign], [], by simp [List.mem_singleton.mp h, yield]⟩
  | _, multiply _ left sign right _ _, p, h | _, add _ left sign right _ _, p, h => by
    rcases List.mem_pair.mp h with h | h
    · exact ⟨[], sign :: right.yield, by simp [h, yield]⟩
    · exact ⟨left.yield ++ [sign], [], by simp [h, yield]⟩
  | _, first d, p, h => by
    rw [List.mem_singleton.mp h]
    exact List.infix_rfl
  | _, next before comma d _, p, h => by
    rcases List.mem_append.mp h with h | h
    · exact (before.parts_infix p h).trans ⟨[], comma :: d.yield, rfl⟩
    · rw [List.mem_singleton.mp h]
      exact ⟨before.yield ++ [comma], [], by simp [yield]⟩

theorem parts_shorter : ∀ {level : Level} (d : Derivation (.expression level)), ∀ p ∈ d.parts,
    p.yield.length < d.yield.length
  | _, number .., p, h | _, name .., p, h => absurd h List.not_mem_nil
  | _, parens opening inner closing _ _, p, h => by
    have hi := inner.parts_shorter p h
    simp only [yield, List.length_cons, List.length_append]
    omega
  | _, atom d, p, h | _, applied d, p, h | _, unary d, p, h | _, product d, p, h =>
    d.parts_shorter p h
  | _, callNone callee opening closing _ _, p, h => by
    simp [List.mem_singleton.mp h, yield]
  | _, call callee opening arguments closing _ _, p, h => by
    simp only [yield, List.length_cons, List.length_append]
    rcases List.mem_cons.mp h with rfl | h
    · simp only [alone_yield]
      omega
    · have ha := (arguments.parts_infix p h).length_le
      omega
  | _, negate sign operand _, p, h => by simp [List.mem_singleton.mp h, yield]
  | _, multiply _ left sign right _ _, p, h | _, add _ left sign right _ _, p, h => by
    simp only [yield, List.length_cons, List.length_append]
    rcases List.mem_pair.mp h with h | h
    · simp only [h, alone_yield]
      omega
    · simp only [h, alone_yield]
      omega

/-! ## Leaves -/

open Token (operands operands_append operands_mark operands_single)

/-- A leaf comes from a derivation with just one operand among its tokens, which it stands for. -/
def HasLeaf {c : Category} (d : Derivation c) (n : Node η) (t : Token) : Prop :=
  ∃ (level : Level) (e : Derivation (.expression level)), n = .value t.value (some e.span) ∧
    operands e.yield = [t] ∧ e.yield <:+: d.yield

theorem HasLeaf.inside {c c' : Category} {d : Derivation c} {e : Derivation c'} {n : Node η}
    {t : Token} (hy : e.yield <:+: d.yield) (h : e.HasLeaf n t) : d.HasLeaf n t := by
  obtain ⟨level, p, hn, hf, hi⟩ := h
  exact ⟨level, p, hn, hf, hi.trans hy⟩

/-- Leaves one to one with operands, in order. -/
def HasLeaves {c : Category} (d : Derivation c) : List (Node η) → List Token → Prop :=
  List.Forall₂ (HasLeaf d)

theorem HasLeaves.inside {c c' : Category} {d : Derivation c} {e : Derivation c'}
    {nodes : List (Node η)} {tokens : List Token} (hy : e.yield <:+: d.yield)
    (h : e.HasLeaves nodes tokens) : d.HasLeaves nodes tokens :=
  h.imp fun _ _ hl => hl.inside hy

theorem HasLeaves.append {c : Category} {d : Derivation c} {before after : List (Node η)}
    {tokens more : List Token} (hb : d.HasLeaves before tokens) (ha : d.HasLeaves after more) :
    d.HasLeaves (before ++ after) (tokens ++ more) :=
  List.rel_append hb ha

/-- Parentheses around a leaf give it their span. -/
theorem HasLeaves.parens {level : Level} {d : Derivation (.expression .atom)}
    {inner : Derivation (.expression level)} {node : Node η} (hi : inner.yield <:+: d.yield)
    (ho : operands d.yield = operands inner.yield)
    (h : inner.HasLeaves node.leaves (operands inner.yield)) :
    d.HasLeaves (node.withSpan (some d.span)).leaves (operands inner.yield) := by
  cases node with
  | value v span =>
    obtain ⟨t, rest, ⟨level, e, hv, -, -⟩, hrest, ht⟩ := List.forall₂_cons_left_iff.mp h
    cases hrest
    injection hv with hv
    rw [ht]
    exact .cons ⟨.atom, d, by rw [hv], ho.trans ht, List.infix_rfl⟩ .nil
  | _ => exact h.inside hi

/-- The leaves come from the operands, in order. -/
theorem hasLeaves : ∀ {c : Category} (d : Derivation c),
    d.HasLeaves (Category.leaves (d.tree : c.Of (Node η))) (operands d.yield)
  | _, number t ht => by
    have hv : (t.value : Value η) = .number (numberOf t) := if_pos ht
    have ho : operands [t] = [t] := operands_single (.inl ht)
    rw [yield, ho]
    exact .cons ⟨.atom, number t ht, by rw [hv], ho, List.infix_rfl⟩ .nil
  | _, name t ht => by
    have hv : (t.value : Value η) = .reference t.text := if_neg (by rw [ht]; decide)
    have ho : operands [t] = [t] := operands_single (.inr ht)
    rw [yield, ho]
    exact .cons ⟨.atom, name t ht, by rw [hv], ho, List.infix_rfl⟩ .nil
  | _, parens opening inner closing ho hc => by
    have hy : operands (parens opening inner closing ho hc).yield = operands inner.yield := by
      rw [yield, operands_mark ho (by decide), operands_append,
        operands_mark hc (by decide)]
      exact List.append_nil _
    have hi : inner.HasLeaves (inner.tree : Node η).leaves _ := inner.hasLeaves
    rw [hy]
    exact hi.parens ⟨[opening], [closing], by simp [yield]⟩ hy
  | _, atom d | _, applied d | _, unary d | _, product d => d.hasLeaves
  | _, callNone callee opening closing ho hc => by
    have hl : callee.HasLeaves (callee.tree : Node η).leaves _ := callee.hasLeaves
    have hn := hl.inside (d := callNone callee opening closing ho hc) ⟨[], [opening, closing], rfl⟩
    rw [yield, operands_append, operands_mark ho (by decide), operands_mark hc (by decide)]
    exact hn.append .nil
  | _, call callee opening arguments closing ho hc => by
    have hl : callee.HasLeaves (callee.tree : Node η).leaves _ := callee.hasLeaves
    have ha : arguments.HasLeaves (Node.leavesAll (arguments.tree : List (Node η))) _ :=
      arguments.hasLeaves
    have hn := hl.inside (d := call callee opening arguments closing ho hc)
      ⟨[], opening :: (arguments.yield ++ [closing]), rfl⟩
    have hm := ha.inside (d := call callee opening arguments closing ho hc)
      ⟨callee.yield ++ [opening], [closing], by simp [yield]⟩
    have hc' : operands [closing] = [] := operands_mark hc (by decide) []
    rw [yield, operands_append, operands_mark ho (by decide), operands_append, hc',
      List.append_nil]
    exact hn.append hm
  | _, negate sign operand hs => by
    have ho : operand.HasLeaves (operand.tree : Node η).leaves _ := operand.hasLeaves
    rw [yield, operands_mark hs (by decide)]
    exact ho.inside ⟨[sign], [], by simp [yield]⟩
  | _, multiply op left sign right hop hs | _, add op left sign right hop hs => by
    have hl : left.HasLeaves (left.tree : Node η).leaves _ := left.hasLeaves
    have hr : right.HasLeaves (right.tree : Node η).leaves _ := right.hasLeaves
    rw [yield, operands_append, operands_mark hs op.mark_ne]
    exact (hl.inside ⟨[], sign :: right.yield, rfl⟩).append
      (hr.inside ⟨left.yield ++ [sign], [], by simp [yield]⟩)
  | _, first d => by
    have hd : d.HasLeaves (d.tree : Node η).leaves _ := d.hasLeaves
    have hl : Category.leaves (first d).tree = (d.tree : Node η).leaves := by
      simp [Category.leaves, tree]
    rw [hl]
    exact hd.inside List.infix_rfl
  | _, next before comma d hc => by
    have hb : before.HasLeaves (Node.leavesAll (before.tree : List (Node η))) _ := before.hasLeaves
    have hd : d.HasLeaves (d.tree : Node η).leaves _ := d.hasLeaves
    have hl : Category.leaves (next before comma d hc).tree =
        Node.leavesAll (before.tree : List (Node η)) ++ (d.tree : Node η).leaves := by
      simp [Category.leaves, tree]
    rw [hl, yield, operands_append, operands_mark hc (by decide)]
    exact (hb.inside ⟨[], comma :: d.yield, rfl⟩).append
      (hd.inside ⟨before.yield ++ [comma], [], by simp [yield]⟩)

theorem exists_operand {level : Level} (d : Derivation (.expression level)) {v : Value η}
    {span : Option Span} (h : d.tree = Node.value v span) :
    ∃ t ∈ d.yield, t.isOperand = true ∧ v = t.value := by
  have hl : d.HasLeaves (d.tree : Node η).leaves (operands d.yield) := d.hasLeaves
  rw [h] at hl
  obtain ⟨t, rest, ⟨_, e, hv, -, -⟩, -, ht⟩ := List.forall₂_cons_left_iff.mp hl
  have hm : t ∈ operands d.yield := by rw [ht]; exact List.mem_cons_self
  obtain ⟨hy, ho⟩ := List.mem_filter.mp hm
  injection hv with hv
  exact ⟨t, hy, ho, hv⟩

end Derivation

end Reckoner
