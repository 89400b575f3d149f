import Reckoner.Proofs.Grammar.Lowering
import Reckoner.Proofs.Node.Shape

/-! # Parts of a derivation

Every node of the tree of a derivation is the tree of a derivation inside it, over neighbouring
tokens and nested no deeper; parentheses around a node belong to the part. A part is a sentence by
itself, and its tree only moves with its tokens.
-/
namespace Reckoner

theorem Token.back_stop {distance : Nat} {t : Token} (h : distance ≤ t.start) :
    (t.back distance).stop + distance = t.stop := by
  simp only [Token.stop, Token.back]
  omega

namespace Category
variable {η : Type}

def nodes : {c : Category} → c.Of (Node η) → List (Node η)
  | .expression _, node => node.preorder
  | .arguments, nodes => Node.preorderAll nodes

def moved (distance : Nat) : {c : Category} → c.Of (Node η) → c.Of (Node η)
  | .expression _, node => node.moved distance
  | .arguments, nodes => Node.movedAll distance nodes

end Category

namespace Derivation
variable {η : Type}

/-- An expression of any level is a sentence by itself. -/
def alone : {level : Level} → Derivation (.expression level) → Sentence
  | .sum, d => d
  | .product, d => .product d
  | .unary, d => .product (.unary d)
  | .applied, d => .product (.unary (.applied d))
  | .atom, d => .product (.unary (.applied (.atom d)))

section Alone
variable {level : Level} (d : Derivation (.expression level))

@[simp] theorem alone_yield : d.alone.yield = d.yield := by
  cases level <;> rfl

@[simp] theorem alone_extent : d.alone.extent = d.extent := by
  cases level <;> rfl

@[simp] theorem alone_tree : d.alone.tree = (d.tree : Node η) := by
  cases level <;> rfl

end Alone

theorem tree_span : ∀ {level : Level} (d : Derivation (.expression level)),
    (d.tree : Node η).span = some d.span
  | _, number .. | _, name .. | _, callNone .. | _, call .. | _, negate .. | _, multiply ..
  | _, add .. => rfl
  | _, parens _ inner _ _ _ => by
    rw [tree]
    cases (inner.tree : Node η) <;> rfl
  | _, atom d | _, applied d | _, unary d | _, product d => d.tree_span

def back (distance : Nat) : {c : Category} → Derivation c → Derivation c
  | _, number t ht => .number (t.back distance) ht
  | _, name t ht => .name (t.back distance) ht
  | _, parens opening inner closing ho hc =>
    .parens (opening.back distance) (inner.back distance) (closing.back distance) ho hc
  | _, atom d => .atom (d.back distance)
  | _, callNone callee opening closing ho hc =>
    .callNone (callee.back distance) (opening.back distance) (closing.back distance) ho hc
  | _, call callee opening arguments closing ho hc =>
    .call (callee.back distance) (opening.back distance) (arguments.back distance)
      (closing.back distance) ho hc
  | _, applied d => .applied (d.back distance)
  | _, negate sign operand hs => .negate (sign.back distance) (operand.back distance) hs
  | _, unary d => .unary (d.back distance)
  | _, multiply op left sign right hop hs =>
    .multiply op (left.back distance) (sign.back distance) (right.back distance) hop hs
  | _, product d => .product (d.back distance)
  | _, add op left sign right hop hs =>
    .add op (left.back distance) (sign.back distance) (right.back distance) hop hs
  | _, first d => .first (d.back distance)
  | _, next before comma d hc =>
    .next (before.back distance) (comma.back distance) (d.back distance) hc

section Back
variable {distance : Nat} {c : Category} (d : Derivation c)

@[simp] theorem back_yield : (d.back distance).yield = d.yield.map (Token.back distance) := by
  induction d <;> simp only [back, yield, List.map_append, List.map_cons, List.map_nil, *]

@[simp] theorem back_extent : (d.back distance).extent = d.extent := by
  induction d <;> simp only [back, extent, *]

@[simp] theorem back_firstToken : (d.back distance).firstToken = d.firstToken.back distance := by
  induction d <;> simp only [back, firstToken, *]

@[simp] theorem back_lastToken : (d.back distance).lastToken = d.lastToken.back distance := by
  induction d <;> simp only [back, lastToken, *]

theorem back_span (h : ∀ t ∈ d.yield, distance ≤ t.start) :
    (d.back distance).span.moved distance = d.span := by
  obtain ⟨rest, hr⟩ := d.yield_eq_cons
  obtain ⟨init, hi⟩ := d.yield_eq_concat
  have hf : distance ≤ d.firstToken.start := h _ (by rw [hr]; exact List.mem_cons_self)
  have hl : distance ≤ d.lastToken.start := h _ (by rw [hi]; simp)
  rw [Span.moved, span, span, back_firstToken, back_lastToken, Token.back_stop hl]
  congr 1
  exact Nat.sub_add_cancel hf

end Back

theorem back_tree (distance : Nat) : ∀ {c : Category} (d : Derivation c),
    (∀ t ∈ d.yield, distance ≤ t.start) →
      Category.moved distance (d.back distance).tree = (d.tree : c.Of (Node η))
  | _, number t ht, h => by
    have hs := (number t ht).back_span h
    exact congrArg (fun s => Node.value (.number (numberOf t)) (some s)) hs
  | _, name t ht, h => by
    have hs := (name t ht).back_span h
    exact congrArg (fun s => Node.value (.reference t.text) (some s)) hs
  | _, parens opening inner closing ho hc, h => by
    have hs := (parens opening inner closing ho hc).back_span h
    have hi := inner.back_tree distance fun t ht => h t (by simp [yield, ht])
    change ((inner.back distance).tree.withSpan _).moved distance = _
    rw [Node.moved_withSpan, tree, ← hs]
    exact congrArg (Node.withSpan _) hi
  | _, atom d, h | _, applied d, h | _, unary d, h | _, product d, h => d.back_tree distance h
  | _, callNone callee opening closing ho hc, h => by
    have hs := (callNone callee opening closing ho hc).back_span h
    have hc := callee.back_tree distance fun t ht => h t (by simp [yield, ht])
    rw [tree, ← hs, ← hc]
    rfl
  | _, call callee opening arguments closing ho hc, h => by
    have hs := (call callee opening arguments closing ho hc).back_span h
    have hc := callee.back_tree distance fun t ht => h t (by simp [yield, ht])
    have ha := arguments.back_tree distance fun t ht => h t (by simp [yield, ht])
    rw [tree, ← hs, ← hc, ← ha]
    rfl
  | _, negate sign operand hs, h => by
    have hs := (negate sign operand hs).back_span h
    have ho := operand.back_tree distance fun t ht => h t (by simp [yield, ht])
    rw [tree, ← hs, ← ho]
    rfl
  | _, multiply op left sign right hop hs, h => by
    have hs := (multiply op left sign right hop hs).back_span h
    have hl := left.back_tree distance fun t ht => h t (by simp [yield, ht])
    have hr := right.back_tree distance fun t ht => h t (by simp [yield, ht])
    rw [tree, ← hs, ← hl, ← hr]
    rfl
  | _, add op left sign right hop hs, h => by
    have hs := (add op left sign right hop hs).back_span h
    have hl := left.back_tree distance fun t ht => h t (by simp [yield, ht])
    have hr := right.back_tree distance fun t ht => h t (by simp [yield, ht])
    rw [tree, ← hs, ← hl, ← hr]
    rfl
  | _, first d, h => congrArg (fun n => [n]) (d.back_tree distance h)
  | _, next before comma d hc, h => by
    have hb := before.back_tree distance fun t ht => h t (by simp [yield, ht])
    have hd := d.back_tree distance fun t ht => h t (by simp [yield, ht])
    rw [tree, ← hb, ← hd]
    change Node.movedAll distance (_ ++ [_]) = Node.movedAll distance _ ++ [Node.moved distance _]
    simp

/-! ## The parts -/

/-- A node is the tree of a derivation inside another one, nested no deeper. -/
def HasPart {c : Category} (d : Derivation c) (n : Node η) : Prop :=
  ∃ (level : Level) (e : Derivation (.expression level)), e.tree = n ∧ e.extent ≤ d.extent ∧
    e.yield <:+: d.yield

theorem HasPart.self {level : Level} (d : Derivation (.expression level)) :
    d.HasPart (d.tree : Node η) := ⟨level, d, rfl, le_refl _, List.infix_rfl⟩

theorem HasPart.inside {c c' : Category} {d : Derivation c} {e : Derivation c'} {n : Node η}
    (h : e.HasPart n) (hn : e.extent ≤ d.extent) (hy : e.yield <:+: d.yield) : d.HasPart n := by
  obtain ⟨level, p, ht, hp, hi⟩ := h
  exact ⟨level, p, ht, hp.trans hn, hi.trans hy⟩

/-- The parts of an operator's derivation are itself and those of its two sides. -/
theorem hasPart_binary {level level₁ level₂ : Level} {d : Derivation (.expression level)}
    {left : Derivation (.expression level₁)} {right : Derivation (.expression level₂)}
    {op : Operator} {sign : Token} {n : Node η}
    (ht : (d.tree : Node η) = .binary op left.tree right.tree (some d.span))
    (hn : d.extent = max (left.extent.below 1) (right.extent.below 1))
    (hy : d.yield = left.yield ++ sign :: right.yield)
    (hl : ∀ n ∈ (left.tree : Node η).preorder, left.HasPart n)
    (hr : ∀ n ∈ (right.tree : Node η).preorder, right.HasPart n)
    (h : n ∈ (d.tree : Node η).preorder) : d.HasPart n := by
  rw [ht] at h
  rcases List.mem_cons.mp h with rfl | h
  · rw [← ht]
    exact .self d
  rcases List.mem_append.mp h with h | h
  · exact (hl n h).inside (hn ▸ (Depth.le_below _ _).trans (Depth.le_max_left _ _))
      ⟨[], sign :: right.yield, by simp [hy]⟩
  · exact (hr n h).inside (hn ▸ (Depth.le_below _ _).trans (Depth.le_max_right _ _))
      ⟨left.yield ++ [sign], [], by simp [hy]⟩

theorem hasPart : ∀ {c : Category} (d : Derivation c) {n : Node η},
    n ∈ Category.nodes (d.tree : c.Of (Node η)) → d.HasPart n
  | _, number t ht, n, h => by
    rw [List.mem_singleton.mp h]
    exact .self _
  | _, name t ht, n, h => by
    rw [List.mem_singleton.mp h]
    exact .self _
  | _, parens opening inner closing ho hc, n, h => by
    rcases Node.mem_preorder_withSpan h with rfl | h
    · exact .self _
    · exact (inner.hasPart h).inside (Depth.le_below _ 1) ⟨[opening], [closing], by simp [yield]⟩
  | _, atom d, n, h | _, applied d, n, h | _, unary d, n, h | _, product d, n, h =>
    (d.hasPart h).inside (le_refl _) List.infix_rfl
  | _, callNone callee opening closing ho hc, n, h => by
    rcases List.mem_cons.mp h with rfl | h
    · exact .self _
    · have hm : n ∈ (callee.tree : Node η).preorder := by simpa [Node.preorderAll] using h
      exact (callee.hasPart hm).inside (Depth.le_below _ 1)
        ⟨[], [opening, closing], by simp [yield]⟩
  | _, call callee opening arguments closing ho hc, n, h => by
    rcases List.mem_cons.mp h with rfl | h
    · exact .self _
    rcases List.mem_append.mp h with h | h
    · exact (callee.hasPart h).inside ((Depth.le_below _ 1).trans (Depth.le_max_left _ _))
        ⟨[], opening :: (arguments.yield ++ [closing]), by simp [yield]⟩
    · exact (arguments.hasPart h).inside ((Depth.le_below _ 2).trans (Depth.le_max_right _ _))
        ⟨callee.yield ++ [opening], [closing], by simp [yield]⟩
  | _, negate sign operand hs, n, h => by
    rcases List.mem_cons.mp h with rfl | h
    · exact .self _
    · exact (operand.hasPart h).inside (Depth.le_below _ 1) ⟨[sign], [], by simp [yield]⟩
  | _, multiply op left sign right hop hs, n, h =>
    hasPart_binary rfl rfl rfl (fun _ h => left.hasPart h) (fun _ h => right.hasPart h) h
  | _, add op left sign right hop hs, n, h =>
    hasPart_binary rfl rfl rfl (fun _ h => left.hasPart h) (fun _ h => right.hasPart h) h
  | _, first d, n, h => by
    have hm : n ∈ (d.tree : Node η).preorder := by
      simpa [tree, Category.nodes] using h
    exact (d.hasPart hm).inside (le_refl _) List.infix_rfl
  | _, next before comma d hc, n, h => by
    have hm : n ∈ Node.preorderAll (before.tree : List (Node η)) ∨
        n ∈ (d.tree : Node η).preorder := by
      simpa [tree, Category.nodes] using h
    rcases hm with h | h
    · exact (before.hasPart h).inside (Depth.le_max_left _ _)
        ⟨[], comma :: d.yield, by simp [yield]⟩
    · exact (d.hasPart h).inside (Depth.le_max_right _ _)
        ⟨before.yield ++ [comma], [], by simp [yield]⟩

end Derivation

end Reckoner
