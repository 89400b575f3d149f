import Reckoner.Proofs.Grammar.Similar
import Reckoner.Proofs.Token.Parentheses

/-! # Replacing a part of a derivation

The part of a derivation that a node comes from can be exchanged for any other one of its level.
What stands before it stays, what stands behind it may move on, and the tree around the node is the
same. So parentheses can be put around every part: they make an atom of it, and atoms are of all
levels.
-/
namespace Reckoner
open Token (ahead)
variable {η : Type}

namespace Derivation

theorem exists_ahead (distance : Nat) {c : Category} (d : Derivation c) : ∃ e : Derivation c,
    e.yield = d.yield.map (ahead distance) ∧
      Category.bare (e.tree : c.Of (Node η)) = Category.bare d.tree ∧ e.extent = d.extent := by
  have hR : ∀ t t' : Token, t' = t.ahead distance → t.kind = t'.kind ∧ t.text = t'.text := by
    rintro t t' rfl
    exact ⟨rfl, rfl⟩
  have hy : List.Forall₂ (fun t t' : Token => t' = t.ahead distance) d.yield
      (d.yield.map (ahead distance)) := by
    rw [List.forall₂_map_right_iff]
    exact List.forall₂_same.mpr fun _ _ => rfl
  obtain ⟨e, hs, he⟩ := d.exists_similar (fun t t' h => (hR t t' h).1) hy
  exact ⟨e, he, (hs.bare_tree fun t t' h => (hR t t' h).2).symm, hs.extent.symm⟩

/-- `g` comes from `d` by exchanging the part at a place of the tree, which stands between tokens
that stay and tokens that move on. The tree of `part` comes to that place. -/
structure Exchanged (distance : Nat) {c : Category} (d g : Derivation c) (i : Nat)
    (before : List Token) (part : List Token) (node : Node η) (after : List Token) : Prop where
  yield_eq : g.yield = before ++ part ++ after.map (ahead distance)
  bare_eq : Category.bare (g.tree : c.Of (Node η)) = Category.bare d.tree
  near : d.extent.Near g.extent
  node_eq : (Category.nodes g.tree)[i]? = some node

/-- The node at a place of the tree comes from a part that can be exchanged for others with the same
tree but for the spans, nested one level deeper at most. -/
def HasSite {c : Category} (d : Derivation c) (i : Nat) (n : Node η) : Prop :=
  ∃ (level : Level) (e : Derivation (.expression level)) (before after : List Token),
    e.tree = n ∧ d.yield = before ++ e.yield ++ after ∧
      ∀ (f : Derivation (.expression level)) (distance : Nat),
        (f.tree : Node η).bare = e.tree.bare → e.extent.Near f.extent →
          ∃ g : Derivation c, Exchanged distance d g i before f.yield (f.tree : Node η) after

theorem HasSite.self {level : Level} (d : Derivation (.expression level)) :
    d.HasSite 0 (d.tree : Node η) := by
  refine ⟨level, d, [], [], rfl, (List.append_nil _).symm, fun f distance hb hn => ⟨f, ?_⟩⟩
  refine ⟨(List.append_nil _).symm, hb, hn, ?_⟩
  rw [Category.nodes, Node.preorder_eq, List.getElem?_cons_zero]

/-- What can be exchanged inside a derivation can be exchanged in what is built around it. -/
theorem HasSite.inside {c c' : Category} {d : Derivation c} {inner : Derivation c'} {i j : Nat}
    {n : Node η} (h : inner.HasSite i n) {left right : List Token}
    (hy : d.yield = left ++ inner.yield ++ right)
    (hw : ∀ (g : Derivation c') (distance : Nat),
      Category.bare (g.tree : c'.Of (Node η)) = Category.bare inner.tree →
        ∃ w : Derivation c, w.yield = left ++ g.yield ++ right.map (ahead distance) ∧
          Category.bare (w.tree : c.Of (Node η)) = Category.bare d.tree ∧
          (inner.extent.Near g.extent → d.extent.Near w.extent) ∧
          ∀ m : Node η, (Category.nodes g.tree)[i]? = some m →
            (Category.nodes w.tree)[j]? = some m) : d.HasSite j n := by
  obtain ⟨level, e, before, after, he, hi, hg⟩ := h
  refine ⟨level, e, left ++ before, after ++ right, he, ?_, fun f distance hb hn => ?_⟩
  · rw [hy, hi]
    simp only [List.append_assoc]
  · obtain ⟨g, hg⟩ := hg f distance hb hn
    obtain ⟨w, hyield, hbare, hnear, hnode⟩ := hw g distance hg.bare_eq
    refine ⟨w, ?_, hbare, hnear hg.near, hnode _ hg.node_eq⟩
    rw [hyield, hg.yield_eq, List.map_append]
    simp only [List.append_assoc]

/-- A way to put two derivations together, with tokens between and behind them that can move on.
Their nodes are those of the whole, below the ones that are put above them. -/
structure Joins (η : Type) {c c₁ c₂ : Category} (above : Nat) (between behind : List Token)
    (join : Derivation c₁ → Nat → Derivation c₂ → Nat → Derivation c) : Prop where
  yield_eq : ∀ left a right b, (join left a right b).yield =
    left.yield ++ between.map (ahead a) ++ right.yield ++ behind.map (ahead b)
  near : ∀ {left left' : Derivation c₁} {right right' : Derivation c₂} (a b a' b' : Nat),
    left.extent.Near left'.extent → right.extent.Near right'.extent →
      (join left a right b).extent.Near (join left' a' right' b').extent
  bare_eq : ∀ {left left' : Derivation c₁} {right right' : Derivation c₂} (a b a' b' : Nat),
    Category.bare (left.tree : c₁.Of (Node η)) = Category.bare left'.tree →
    Category.bare (right.tree : c₂.Of (Node η)) = Category.bare right'.tree →
      Category.bare ((join left a right b).tree : c.Of (Node η)) =
        Category.bare (join left' a' right' b').tree
  nodes_eq : ∀ left a right b i,
    (Category.nodes ((join left a right b).tree : c.Of (Node η)))[i + above]? =
      (Category.nodes (left.tree : c₁.Of (Node η)) ++ Category.nodes right.tree)[i]?

theorem map_ahead_zero (tokens : List Token) : tokens.map (ahead 0) = tokens := List.map_id _

/-- A place below is one in the left part or one in the right part. In the left part everything to
the right moves on, in the right part only what stands behind. -/
theorem Joins.hasSite {c c₁ c₂ : Category} {above : Nat} {between behind : List Token}
    {join : Derivation c₁ → Nat → Derivation c₂ → Nat → Derivation c}
    (h : Joins η above between behind join) {left : Derivation c₁} {right : Derivation c₂} {i : Nat}
    {n : Node η} (hl : ∀ i, (Category.nodes left.tree)[i]? = some n → left.HasSite i n)
    (hr : ∀ i, (Category.nodes right.tree)[i]? = some n → right.HasSite i n)
    (hn : (Category.nodes ((join left 0 right 0).tree : c.Of (Node η)))[i + above]? = some n) :
    (join left 0 right 0).HasSite (i + above) n := by
  have hyield := h.yield_eq left 0 right 0
  rw [map_ahead_zero, map_ahead_zero] at hyield
  rw [h.nodes_eq] at hn
  by_cases hi : i < (Category.nodes (left.tree : c₁.Of (Node η))).length
  · rw [List.getElem?_append_left hi] at hn
    have hplace : (join left 0 right 0).yield =
        [] ++ left.yield ++ (between ++ right.yield ++ behind) := by
      rw [hyield, List.nil_append, List.append_assoc, List.append_assoc, List.append_assoc]
    refine (hl i hn).inside hplace fun g distance hb => ?_
    obtain ⟨r, hry, hrb, hrn⟩ := right.exists_ahead (η := η) distance
    refine ⟨join g distance r distance, ?_, h.bare_eq _ _ _ _ hb hrb,
      fun hg => h.near _ _ _ _ hg (hrn ▸ Depth.near_self _), fun m hm => ?_⟩
    · rw [h.yield_eq, hry]
      simp only [List.map_append, List.append_assoc, List.nil_append]
    · rw [h.nodes_eq, List.getElem?_append_left (List.getElem?_eq_some_iff.mp hm).1]
      exact hm
  · have hle := Nat.le_of_not_lt hi
    rw [List.getElem?_append_right hle] at hn
    refine (hr _ hn).inside hyield fun g distance hb => ?_
    refine ⟨join left 0 g distance, ?_, h.bare_eq _ _ _ _ rfl hb,
      fun hg => h.near _ _ _ _ (Depth.near_self _) hg, fun m hm => ?_⟩
    · rw [h.yield_eq, map_ahead_zero]
    · rw [h.nodes_eq, List.getElem?_append_right hle]
      exact hm

section Joins
variable {op : Operator} {sign comma opening closing : Token}

theorem joins_multiply (hop : op = .times ∨ op = .divide) (hs : sign.kind = op.mark) :
    Joins η 1 [sign] [] fun l a r _ => .multiply op l (sign.ahead a) r hop hs where
  yield_eq l a r b := by simp [yield]
  near _ _ _ _ hl hr := (hl.below 1).max (hr.below 1)
  bare_eq _ _ _ _ hl hr := congrArg₂ (fun l r => Node.binary op l r none) hl hr
  nodes_eq _ _ _ _ _ := List.getElem?_cons_succ

theorem joins_add (hop : op = .plus ∨ op = .minus) (hs : sign.kind = op.mark) :
    Joins η 1 [sign] [] fun l a r _ => .add op l (sign.ahead a) r hop hs where
  yield_eq l a r b := by simp [yield]
  near _ _ _ _ hl hr := (hl.below 1).max (hr.below 1)
  bare_eq _ _ _ _ hl hr := congrArg₂ (fun l r => Node.binary op l r none) hl hr
  nodes_eq _ _ _ _ _ := List.getElem?_cons_succ

theorem joins_call (ho : opening.kind = .openParen) (hc : closing.kind = .closeParen) :
    Joins η 1 [opening] [closing] fun l a r b =>
      .call l (opening.ahead a) r (closing.ahead b) ho hc where
  yield_eq l a r b := by simp [yield]
  near _ _ _ _ hl hr := (hl.below 1).max (hr.below 2)
  bare_eq _ _ _ _ hl hr := congrArg₂ (fun c as => Node.call c as none) hl hr
  nodes_eq _ _ _ _ _ := List.getElem?_cons_succ

theorem joins_next (hc : comma.kind = .comma) :
    Joins η 0 [comma] [] fun l a r _ => .next l (comma.ahead a) r hc where
  yield_eq l a r b := by simp [yield]
  near _ _ _ _ hl hr := hl.max hr
  bare_eq _ _ _ _ hl hr := by
    simp only [tree, Category.bare, Node.bareAll_eq_map, List.map_append] at hl ⊢
    exact congrArg₂ (fun ns n => ns ++ [n]) hl hr
  nodes_eq l a r b i := by
    simp [tree, Category.nodes]

end Joins

theorem HasSite.wrapped {level level' : Level}
    (wrap : Derivation (.expression level) → Derivation (.expression level'))
    (hy : ∀ g, (wrap g).yield = g.yield) (hn : ∀ g, (wrap g).extent = g.extent)
    (ht : ∀ g, ((wrap g).tree : Node η) = g.tree) {d : Derivation (.expression level)} {i : Nat}
    {n : Node η} (h : d.HasSite i n) : (wrap d).HasSite i n := by
  have hplace : (wrap d).yield = [] ++ d.yield ++ [] := by
    rw [hy, List.append_nil, List.nil_append]
  refine h.inside hplace fun g distance hb => ⟨wrap g, ?_, ?_, ?_, fun m hm => ?_⟩
  · rw [hy, List.map_nil, List.append_nil, List.nil_append]
  · rw [Category.bare, Category.bare, ht, ht]
    exact hb
  · rw [hn, hn]
    exact id
  · rw [Category.nodes, ht]
    exact hm

theorem hasSite_root {level : Level} (d : Derivation (.expression level)) {n : Node η}
    (h : (d.tree : Node η).preorder[0]? = some n) : d.HasSite 0 n := by
  rw [Node.preorder_eq, List.getElem?_cons_zero] at h
  cases h
  exact .self d

section Below
variable {i : Nat} {n : Node η} {opening closing sign : Token}

/-- The places below the root of a tree in parentheses are those of the tree inside. -/
theorem hasSite_parens {inner : Sentence} (ho : opening.kind = .openParen)
    (hc : closing.kind = .closeParen) (h : inner.HasSite (i + 1) n) :
    (parens opening inner closing ho hc).HasSite (i + 1) n := by
  have hplace : (parens opening inner closing ho hc).yield =
      [opening] ++ inner.yield ++ [closing] := rfl
  refine h.inside hplace fun g distance hb => ?_
  have hc' : (closing.ahead distance).kind = .closeParen := hc
  refine ⟨parens opening g (closing.ahead distance) ho hc', rfl, ?_, fun hg => hg.below 1,
    fun m hm => ?_⟩
  · rw [Category.bare, Category.bare, tree, tree, Node.bare_withSpan, Node.bare_withSpan]
    exact hb
  · rw [Category.nodes, tree, Node.preorder_withSpan, List.getElem?_cons_succ,
      List.getElem?_tail]
    exact hm

theorem hasSite_callNone {callee : Derivation (.expression .applied)}
    (ho : opening.kind = .openParen) (hc : closing.kind = .closeParen) (h : callee.HasSite i n) :
    (callNone callee opening closing ho hc).HasSite (i + 1) n := by
  have hplace : (callNone callee opening closing ho hc).yield =
      [] ++ callee.yield ++ [opening, closing] := rfl
  refine h.inside hplace fun g distance hb => ?_
  refine ⟨callNone g (opening.ahead distance) (closing.ahead distance) ho hc, rfl,
    congrArg (fun c => Node.call c [] none) hb, fun hg => hg.below 1, fun m hm => ?_⟩
  have hg : ((g.tree : Node η).preorder ++ [])[i]? = some m := by rwa [List.append_nil]
  exact hg

theorem hasSite_negate {operand : Derivation (.expression .unary)} (hs : sign.kind = .minus)
    (h : operand.HasSite i n) : (negate sign operand hs).HasSite (i + 1) n := by
  have hplace : (negate sign operand hs).yield = [sign] ++ operand.yield ++ [] := by
    simp [yield]
  refine h.inside hplace fun g distance hb => ?_
  exact ⟨negate sign g hs, by simp [yield], congrArg (fun o => Node.negate o none) hb,
    fun hg => hg.below 1, fun m hm => hm⟩

theorem hasSite_first {d : Sentence} (h : d.HasSite i n) : (first d).HasSite i n := by
  have hplace : (first d).yield = [] ++ d.yield ++ [] := by simp [yield]
  refine h.inside hplace fun g distance hb => ?_
  refine ⟨first g, by simp [yield], congrArg (fun n => [n]) hb, id, fun m hm => ?_⟩
  have hg : ((g.tree : Node η).preorder ++ [])[i]? = some m := by rwa [List.append_nil]
  exact hg

end Below

/-- Every place in the tree of a derivation is one where its part can be exchanged. -/
theorem hasSite : ∀ {c : Category} (d : Derivation c) {i : Nat} {n : Node η},
    (Category.nodes (d.tree : c.Of (Node η)))[i]? = some n → d.HasSite i n
  | _, number .., 0, n, h | _, name .., 0, n, h | _, parens .., 0, n, h | _, callNone .., 0, n, h
  | _, call .., 0, n, h | _, negate .., 0, n, h | _, multiply .., 0, n, h
  | _, add .., 0, n, h => hasSite_root _ h
  | _, parens opening inner closing ho hc, i + 1, n, h => by
    rw [Category.nodes, tree, Node.preorder_withSpan, List.getElem?_cons_succ,
      List.getElem?_tail] at h
    exact hasSite_parens ho hc (inner.hasSite h)
  | _, atom d, i, n, h =>
    .wrapped .atom (fun _ => rfl) (fun _ => rfl) (fun _ => rfl) (d.hasSite h)
  | _, applied d, i, n, h =>
    .wrapped .applied (fun _ => rfl) (fun _ => rfl) (fun _ => rfl) (d.hasSite h)
  | _, unary d, i, n, h =>
    .wrapped .unary (fun _ => rfl) (fun _ => rfl) (fun _ => rfl) (d.hasSite h)
  | _, product d, i, n, h =>
    .wrapped .product (fun _ => rfl) (fun _ => rfl) (fun _ => rfl) (d.hasSite h)
  | _, callNone callee opening closing ho hc, i + 1, n, h => by
    have hm : (callee.tree : Node η).preorder[i]? = some n := by
      rwa [← List.append_nil (callee.tree : Node η).preorder]
    exact hasSite_callNone ho hc (callee.hasSite hm)
  | _, call callee opening arguments closing ho hc, i + 1, n, h =>
    (joins_call ho hc).hasSite (fun _ h => callee.hasSite h) (fun _ h => arguments.hasSite h) h
  | _, negate sign operand hs, i + 1, n, h => hasSite_negate hs (operand.hasSite h)
  | _, multiply op left sign right hop hs, i + 1, n, h =>
    (joins_multiply hop hs).hasSite (fun _ h => left.hasSite h) (fun _ h => right.hasSite h) h
  | _, add op left sign right hop hs, i + 1, n, h =>
    (joins_add hop hs).hasSite (fun _ h => left.hasSite h) (fun _ h => right.hasSite h) h
  | _, first d, i, n, h => by
    have hm : (d.tree : Node η).preorder[i]? = some n := by
      rwa [← List.append_nil (d.tree : Node η).preorder]
    exact hasSite_first (d.hasSite hm)
  | _, next before comma d hc, i, n, h =>
    (joins_next hc).hasSite (fun _ h => before.hasSite h) (fun _ h => d.hasSite h) h

/-! ## Parentheses around a part -/

def raised : {level : Level} → Derivation (.expression .atom) → Derivation (.expression level)
  | .atom, d => d
  | .applied, d => .atom d
  | .unary, d => .applied (.atom d)
  | .product, d => .unary (.applied (.atom d))
  | .sum, d => .product (.unary (.applied (.atom d)))

section Raised
variable (level : Level) (d : Derivation (.expression .atom))

theorem raised_yield : (d.raised : Derivation (.expression level)).yield = d.yield := by
  cases level <;> rfl

theorem raised_extent : (d.raised : Derivation (.expression level)).extent = d.extent := by
  cases level <;> rfl

theorem raised_tree :
    (d.raised : Derivation (.expression level)).tree = (d.tree : Node η) := by
  cases level <;> rfl

end Raised

/-- Every node comes from a part that can be put in parentheses. The new pair becomes the span of
the node, and nothing else changes in the tree but where it was read. -/
theorem exists_parenthesized {c : Category} (d : Derivation c) {i : Nat} {n : Node η}
    (h : (Category.nodes (d.tree : c.Of (Node η)))[i]? = some n) :
    ∃ (level : Level) (e : Derivation (.expression level)) (before after : List Token),
      e.tree = n ∧ d.yield = before ++ e.yield ++ after ∧ ∃ g : Derivation c,
        g.yield = before ++ ⟨.openParen, ['('], e.span.start⟩ :: (e.yield.map (ahead 1) ++
          [⟨.closeParen, [')'], e.span.stop + 1⟩]) ++ after.map (ahead 2) ∧
        Category.bare (g.tree : c.Of (Node η)) = Category.bare d.tree ∧
        d.extent.Near g.extent ∧
        ∃ m : Node η, (Category.nodes g.tree)[i]? = some m ∧
          m.span = some ⟨e.span.start, e.span.stop + 2⟩ := by
  obtain ⟨level, e, before, after, he, hy, hg⟩ := d.hasSite h
  obtain ⟨inner, hinner, hbare, hnest⟩ := e.alone.exists_ahead (η := η) 1
  rw [alone_yield] at hinner
  rw [alone_extent] at hnest
  let pair : Derivation (.expression .atom) := .parens ⟨.openParen, ['('], e.span.start⟩ inner
    ⟨.closeParen, [')'], e.span.stop + 1⟩ rfl rfl
  have hpair : (pair.tree : Node η).bare = e.tree.bare := by
    rw [← alone_tree e]
    exact (Node.bare_withSpan _ _).trans hbare
  have hdeep : pair.extent = e.extent.below 1 := congrArg (Depth.below · 1) hnest
  have hnear : e.extent.Near (pair.raised : Derivation (.expression level)).extent := by
    rw [raised_extent, hdeep]
    exact ⟨Depth.le_below _ 1, le_refl _⟩
  obtain ⟨g, hg⟩ := hg pair.raised 2 (by rw [raised_tree, hpair]) hnear
  refine ⟨level, e, before, after, he, hy, g, ?_, hg.bare_eq, hg.near, _, hg.node_eq, ?_⟩
  · rw [hg.yield_eq, raised_yield, yield, hinner]
  · rw [raised_tree, tree_span]
    rfl

end Derivation

end Reckoner
