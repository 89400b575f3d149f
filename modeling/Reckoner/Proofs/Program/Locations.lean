import Reckoner.Proofs.Grammar.Children
import Reckoner.Proofs.Program.Locality
import Reckoner.Proofs.Token.Margins

/-! # Spans account for the source

The spans of a compiled tree are nested as its nodes are, start and stop at tokens, and leave out
nothing but layout at both ends of the source. Every number and every name of the source is the
operand of one leaf, in order, and lies in no other leaf.
-/
namespace Reckoner
open Token (Laid Covers operands)

theorem Token.start_lt_stop {t : Token} (h : Spells t.kind t.text) : t.start < t.stop := by
  have hp := List.length_pos_iff.mpr h.ne_nil
  rw [stop_eq]
  omega

namespace Derivation

section Spans
variable {length : Nat} {level level' : Level} {d : Derivation (.expression level)}
  {e : Derivation (.expression level')}

theorem firstToken_mem (d : Derivation (.expression level)) : d.firstToken ∈ d.yield :=
  List.mem_of_head? d.head?_yield

theorem lastToken_mem (d : Derivation (.expression level)) : d.lastToken ∈ d.yield :=
  List.mem_of_getLast? d.getLast?_yield

theorem le_lastToken (h : Laid length d.yield) : ∀ t ∈ d.yield, t.stop ≤ d.lastToken.stop := by
  obtain ⟨rest, hr⟩ := d.yield_eq_concat
  have hs := h.spelled _ d.lastToken_mem
  have hp := h.ordered
  rw [hr] at hp ⊢
  intro t ht
  rcases List.mem_append.mp ht with ht | ht
  · have hle := (List.pairwise_append.mp hp).2.2 t ht _ List.mem_cons_self
    have hlt := Token.start_lt_stop hs
    omega
  · rw [List.mem_singleton.mp ht]

theorem span_shorter (h : Laid length d.yield) (hi : e.yield <:+: d.yield)
    (hl : e.yield.length < d.yield.length) :
    d.span.start ≤ e.span.start ∧ e.span.stop ≤ d.span.stop ∧
      e.span.stop - e.span.start < d.span.stop - d.span.start := by
  have hw := e.span_within (h.sublist hi.sublist)
  have hf := d.firstToken_le h _ (hi.subset e.firstToken_mem)
  have ht := le_lastToken h _ (hi.subset e.lastToken_mem)
  obtain ⟨before, after, hy⟩ := hi
  have hp := h.ordered
  rw [← hy, List.pairwise_append, List.pairwise_append] at hp
  obtain ⟨⟨-, -, hb⟩, -, ha⟩ := hp
  -- some token is left out on one side, and has a length of its own
  have hout : d.firstToken.start < e.firstToken.start ∨ e.lastToken.stop < d.lastToken.stop := by
    cases before with
    | cons t before =>
      have hmem : t ∈ d.yield := by rw [← hy]; simp
      have hlt := Token.start_lt_stop (h.spelled t hmem)
      have hle := hb t List.mem_cons_self _ e.firstToken_mem
      have hfirst := d.firstToken_le h t hmem
      exact .inl (by omega)
    | nil =>
      cases after with
      | cons t after =>
        have hmem : t ∈ d.yield := by rw [← hy]; simp
        have hlt := Token.start_lt_stop (h.spelled t hmem)
        have hle := ha _ (List.mem_append_right _ e.lastToken_mem) t List.mem_cons_self
        have hlast := le_lastToken h t hmem
        exact .inr (by omega)
      | nil =>
        rw [← hy] at hl
        simp at hl
  simp only [span]
  omega

theorem outside_span (h : Laid length d.yield) (hi : e.yield <:+: d.yield) {t : Token}
    (ht : t ∈ d.yield) (hn : t ∉ e.yield) : t.stop ≤ e.span.start ∨ e.span.stop ≤ t.start := by
  obtain ⟨before, after, hy⟩ := hi
  have hp := h.ordered
  rw [← hy, List.pairwise_append, List.pairwise_append] at hp
  obtain ⟨⟨-, -, hb⟩, -, ha⟩ := hp
  rw [← hy, List.mem_append, List.mem_append] at ht
  rcases ht with (ht | ht) | ht
  · exact .inl (hb t ht _ e.firstToken_mem)
  · exact absurd ht hn
  · exact .inr (ha _ (List.mem_append_right _ e.lastToken_mem) t ht)

theorem parts_ordered (h : Laid length d.yield) :
    d.parts.Pairwise fun p q => p.span.stop ≤ q.span.start := by
  have hp := h.ordered.sublist d.parts_sublist
  rw [List.flatMap, List.pairwise_flatten, List.pairwise_map] at hp
  exact hp.2.imp fun hpq => hpq _ (lastToken_mem _) _ (firstToken_mem _)

end Spans

end Derivation

structure Span.Inside (inner outer : Span) : Prop where
  start_le : outer.start ≤ inner.start
  stop_le : inner.stop ≤ outer.stop
  shorter : inner.stop - inner.start < outer.stop - outer.start

namespace Program
variable {η : Type}

/-- A leaf that stands for one of the operands of a source and contains no other. -/
def Reflects (all : List Token) (leaf : Node η) (t : Token) : Prop :=
  ∃ span : Span, leaf = .value t.value (some span) ∧ span.start ≤ t.start ∧ t.stop ≤ span.stop ∧
    ∀ u ∈ all, u ≠ t → u.stop ≤ span.start ∨ span.stop ≤ u.start

/-- A program whose spans account for its source. -/
structure Charted (program : Program η) : Prop where
  node : ∀ n ∈ program.root.preorder, ∃ span : Span, n.span = some span ∧
    span.start < span.stop ∧ span.stop ≤ program.source.length ∧
    (∀ c ∈ program.source[span.start]?, Blank.isSpace c = false) ∧
    ∀ c ∈ program.source[span.stop - 1]?, Blank.isSpace c = false
  root : ∃ span : Span, program.root.span = some span ∧
    (∀ c ∈ program.source.take span.start, Blank.isLayout c = true) ∧
    ∀ c ∈ program.source.drop span.stop, Blank.isLayout c = true
  children : ∀ n ∈ program.root.preorder, ∀ m ∈ n.children, ∃ inner outer : Span,
    m.span = some inner ∧ n.span = some outer ∧ inner.Inside outer
  siblings : ∀ n ∈ program.root.preorder, n.children.Pairwise fun a b => ∃ left right : Span,
    a.span = some left ∧ b.span = some right ∧ left.stop ≤ right.start
  leaves : List.Forall₂ (Reflects (operands (Token.scan program.source).tokens))
    program.root.leaves (operands (Token.scan program.source).tokens)

theorem Reflects.of_hasLeaf {source : Text} {d : Sentence} (h : Laid source.length d.yield)
    {n : Node η} {t : Token} (hl : d.HasLeaf n t) : Reflects (operands d.yield) n t := by
  obtain ⟨level, e, hn, ho, hi⟩ := hl
  have hmem : t ∈ e.yield := by
    have hm : t ∈ operands e.yield := by rw [ho]; exact List.mem_cons_self
    exact (List.mem_filter.mp hm).1
  have he : Laid source.length e.yield := h.sublist hi.sublist
  refine ⟨e.span, hn, e.firstToken_le he t hmem, Derivation.le_lastToken he t hmem, ?_⟩
  intro u hu hne
  obtain ⟨hu, hop⟩ := List.mem_filter.mp hu
  apply Derivation.outside_span h hi hu
  -- another operand among the tokens of the leaf would be one too many
  intro hue
  have hm : u ∈ operands e.yield := List.mem_filter.mpr ⟨hue, hop⟩
  rw [ho] at hm
  exact hne (List.mem_singleton.mp hm)

theorem exists_laid_part {length : Nat} {d : Sentence} (h : Laid length d.yield) {n : Node η}
    (hn : n ∈ (d.tree : Node η).preorder) :
    ∃ (level : Level) (e : Derivation (.expression level)), e.tree = n ∧ e.yield <:+: d.yield ∧
      Laid length e.yield := by
  obtain ⟨level, e, he, -, hi⟩ := d.hasPart hn
  exact ⟨level, e, he, hi, h.sublist hi.sublist⟩

theorem charted_tree {source : Text} {d : Sentence} (hd : Covers source d.yield) :
    (⟨source, d.tree⟩ : Program η).Charted where
  node := by
    intro n hn
    obtain ⟨level, e, rfl, hi, he⟩ := exists_laid_part hd.laid hn
    have hfirst := Token.start_lt_stop (he.spelled _ e.firstToken_mem)
    have hlast := Token.start_lt_stop (he.spelled _ e.lastToken_mem)
    have hle := Derivation.le_lastToken he _ e.firstToken_mem
    refine ⟨e.span, e.tree_span, Nat.lt_of_lt_of_le hfirst hle, (e.span_within he).2, ?_, ?_⟩
    · exact hd.no_space (hi.subset e.firstToken_mem) (Nat.le_refl _) hfirst
    · exact hd.no_space (hi.subset e.lastToken_mem) (Nat.le_sub_one_of_lt hlast)
        (Nat.sub_one_lt_of_lt hlast)
  root := by
    obtain ⟨rest, hr⟩ := d.yield_eq_cons
    have hend : Token.endOf 0 d.yield = d.lastToken.stop := by
      rw [Token.endOf, d.getLast?_yield]
      rfl
    refine ⟨d.span, d.tree_span, ?_, ?_⟩
    · rw [hr] at hd
      exact hd.layout_before
    · have ha := hd.layout_after
      rw [hend] at ha
      exact ha
  children := by
    intro n hn m hm
    obtain ⟨level, e, rfl, hi, he⟩ := exists_laid_part hd.laid hn
    have hc : Node.children (e.tree : Node η) = _ := e.children_tree
    rw [hc] at hm
    obtain ⟨p, hp, rfl⟩ := List.mem_map.mp hm
    obtain ⟨hstart, hstop, hlt⟩ :=
      Derivation.span_shorter he (e.parts_infix p hp) (e.parts_shorter p hp)
    exact ⟨p.span, e.span, p.tree_span, e.tree_span, hstart, hstop, hlt⟩
  siblings := by
    intro n hn
    obtain ⟨level, e, rfl, hi, he⟩ := exists_laid_part hd.laid hn
    have hc : Node.children (e.tree : Node η) = _ := e.children_tree
    rw [hc, List.pairwise_map]
    exact (Derivation.parts_ordered he).imp fun {p q} hpq =>
      ⟨p.span, q.span, p.tree_span, q.tree_span, hpq⟩
  leaves := by
    have hs : Token.scan source = ⟨d.yield, none⟩ := Token.covers_iff.mp hd
    have hl : d.HasLeaves (d.tree : Node η).leaves _ := d.hasLeaves
    rw [hs]
    exact hl.imp fun n t hn => Reflects.of_hasLeaf hd.laid hn

/-- The spans of a compiled program account for its source. -/
theorem compile_charts {limits : Limits} {source : Source} {program : Program η}
    (h : compile limits source = .ok program) : program.Charted := by
  obtain ⟨d, hd, -, hp⟩ := compile_eq_ok_iff.mp (compile_source h)
  rw [hp]
  exact charted_tree hd

/-- The parentheses go to the leaf inside, the blanks around to none. -/
theorem compile_charts_padded :
    ∃ program : Program Unit, compile (.ofNesting 256) (.ofText " -(x) ".toList) = .ok program ∧
      program.root.leaves = [.value (.reference ['x']) (some ⟨2, 5⟩)] ∧ program.Charted := by
  let x : Sentence := .product (.unary (.applied (.atom (.name ⟨.name, ['x'], 3⟩ rfl))))
  let d : Sentence := .product (.unary (.negate ⟨.minus, ['-'], 1⟩
    (.applied (.atom (.parens ⟨.openParen, ['('], 2⟩ x ⟨.closeParen, [')'], 4⟩ rfl rfl))) rfl))
  have hd : Covers " -(x) ".toList d.yield := Token.covers_iff.mpr rfl
  have h : compile (.ofNesting 256) (.ofText " -(x) ".toList) = .ok (⟨_, d.tree⟩ : Program Unit) :=
    (compile_sentence hd).1 ⟨by decide, by decide⟩
  exact ⟨_, h, rfl, compile_charts h⟩

end Program

end Reckoner
