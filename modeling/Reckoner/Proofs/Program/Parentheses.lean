import Mathlib.Data.Nat.Order.Lemmas
import Reckoner.Proofs.Grammar.Replacement
import Reckoner.Proofs.Program.Depth
import Reckoner.Proofs.Program.Locations
import Reckoner.Proofs.Run.Ample

/-! # Redundant parentheses

Parentheses put around the span of any node become its span and change nothing else: the tree is the
same but for where it was read, and so is every run. They take one level of nesting at most. With
one more level the limit of the first source is large enough, but the stack may not be.
-/
namespace Reckoner
open Token (Covers)

/-- A sentence with parentheses around the part that a node comes from. -/
theorem Derivation.exists_enclosed {η : Type} {source : Text} {d : Sentence}
    (hd : Covers source d.yield) {i : Nat} {n : Node η}
    (hn : (d.tree : Node η).preorder[i]? = some n) :
    ∃ span : Span, n.span = some span ∧ span.Within source.length ∧ ∃ e : Sentence,
      Covers (span.parenthesized source) e.yield ∧ (e.tree : Node η).bare = d.tree.bare ∧
      d.extent.Near e.extent ∧
      ∃ m, (e.tree : Node η).preorder[i]? = some m ∧
        m.span = some ⟨span.start, span.stop + 2⟩ := by
  obtain ⟨level, part, before, after, rfl, hy, e, he, hbare, hnear, hm⟩ :=
    d.exists_parenthesized hn
  have hi : part.yield <:+: d.yield := ⟨before, after, hy.symm⟩
  refine ⟨part.span, part.tree_span, part.span_within (hd.laid.sublist hi.sublist), e, ?_, hbare,
    hnear, hm⟩
  rw [hy] at hd
  rw [he]
  exact hd.parenthesized part.head?_yield part.getLast?_yield

namespace Program
variable {η : Type}

/-- One program and another whose source has parentheses around the node at a place of the tree.
They are the span of the node there. Both programs do the same in every environment, under the same
limits or under any that allow for the depth and have the same stack. -/
structure Enclosed (depth i : Nat) (span : Span) (program whole : Program η) : Prop where
  source_eq : whole.source = span.parenthesized program.source
  bare_eq : whole.root.bare = program.root.bare
  node : ∃ n m : Node η, program.root.preorder[i]? = some n ∧ whole.root.preorder[i]? = some m ∧
    m.bare = n.bare ∧ n.span = some span ∧ m.span = some ⟨span.start, span.stop + 2⟩
  text_eq : Span.text ⟨span.start, span.stop + 2⟩ whole.source =
    '(' :: (span.text program.source ++ [')'])
  execute_eq : ∀ {σ : Type} (calls : Calls σ η) (env : Environment η) (running : Limits) (s : σ),
    whole.execute calls env running s = program.execute calls env running s
  execute_allowed : ∀ {σ : Type} (calls : Calls σ η) (env : Environment η)
    (running wider : Limits) (s : σ), wider.stack = running.stack → depth ≤ running.nesting →
      depth ≤ wider.nesting →
        whole.execute calls env wider s = program.execute calls env running s

/-- Parentheses can be put around every node of a program. With one more level of nesting the source
compiles again, to the same tree but for its spans, if the stack has room for it. -/
theorem compile_parenthesized {limits : Limits} {source : Source} {program : Program η}
    (h : compile limits source = .ok program) {i : Nat} {n : Node η}
    (hn : program.root.preorder[i]? = some n) :
    ∃ span : Span, n.span = some span ∧ ∃ d e : Sentence, Covers program.source d.yield ∧
      Covers (span.parenthesized program.source) e.yield ∧ d.extent.Near e.extent ∧
      ∀ wider : Limits, limits.nesting + 1 ≤ wider.nesting →
        (e.extent.places ≤ wider.stack → ∃ whole : Program η,
          compile wider (.ofText (span.parenthesized program.source)) = .ok whole ∧
            program.Enclosed limits.nesting i span whole) ∧
        (wider.stack < e.extent.places → ∃ error : ParseError, error.kind = .nestingTooDeep ∧
          (compile wider (.ofText (span.parenthesized program.source)) :
            Except Node.Fault (Program η)) = .error (.source error)) := by
  have hheight := compile_height h
  obtain ⟨d, hd, ha, hp⟩ := compile_eq_ok_iff.mp (compile_source h)
  have hroot : program.root = d.tree := congrArg Program.root hp
  obtain ⟨span, hs, hw, e, he, hbare, hnear, m, hm, hms⟩ :=
    Derivation.exists_enclosed hd (hroot ▸ hn)
  rw [← hroot] at hbare
  refine ⟨span, hs, d, e, hd, he, hnear, fun wider hwide => ⟨fun hstack => ?_, fun hlt => ?_⟩⟩
  · have hallow : wider.Allow e.extent :=
      ⟨hnear.le_below.1.trans ((Nat.succ_le_succ ha.1).trans hwide), hstack⟩
    have hground {σ : Type} (calls : Calls σ η) (env : Environment η) (running : Limits) :
        (e.tree : Node η).ground calls env running = program.root.ground calls env running := by
      rw [← Node.ground_bare, hbare, Node.ground_bare]
    have hsame : m.bare = n.bare := Node.bare_eq_of_getElem? hbare hm hn
    refine ⟨_, (compile_sentence he).1 hallow, rfl, hbare, ⟨n, m, hn, hm, hsame, hs, hms⟩,
      Span.text_parenthesized hw, fun calls env running s => ?_,
      fun calls env running wider s hst hn hn' => ?_⟩
    · rw [execute, execute, hground]
    · rw [execute, execute, hground,
        Node.ground_allowed hst (hheight.trans hn') (hheight.trans hn)]
  · exact (compile_sentence he).2 fun hallow => Nat.not_le.mpr hlt hallow.2

theorem compile_parenthesized_operand :
    ∃ program whole : Program Unit,
      compile (.ofNesting 2) (.ofText "-x * y".toList) = .ok program ∧
      compile (.ofNesting 3) (.ofText "(-x) * y".toList) = .ok whole ∧
      program.Enclosed 2 1 ⟨0, 2⟩ whole := by
  let x : Derivation (.expression .unary) :=
    .negate ⟨.minus, ['-'], 0⟩ (.applied (.atom (.name ⟨.name, ['x'], 1⟩ rfl))) rfl
  let y : Derivation (.expression .unary) := .applied (.atom (.name ⟨.name, ['y'], 5⟩ rfl))
  let d : Sentence := .product (.multiply .times (.unary x) ⟨.star, ['*'], 3⟩ y (.inl rfl) rfl)
  have hd : Covers "-x * y".toList d.yield := Token.covers_iff.mpr rfl
  have hprogram : compile (.ofNesting 2) (.ofText "-x * y".toList) =
      .ok (⟨_, d.tree⟩ : Program Unit) := (compile_sentence hd).1 (by decide)
  obtain ⟨span, hs, d', e, hd', -, hnear, hwide⟩ := @compile_parenthesized _ _ _ _ hprogram 1 _ rfl
  cases hs
  cases derivation_unique (hd'.unique hd)
  have hstack : e.extent.places ≤ (Limits.ofNesting 3).stack := hnear.le_below.2.trans (by decide)
  obtain ⟨whole, hwhole, henclosed⟩ := (hwide (.ofNesting 3) (Nat.le_refl _)).1 hstack
  exact ⟨_, whole, hprogram, hwhole, henclosed⟩

/-! ## No room for one more pair -/

theorem span_of_no_layout {source : Text} {d : Sentence} (hd : Covers source d.yield)
    (h : ∀ c ∈ source, Blank.isLayout c = false) : d.span = ⟨0, source.length⟩ := by
  obtain ⟨span, hs, hfront, hback⟩ := (charted_tree (η := Unit) hd).root
  cases hs.symm.trans d.tree_span
  obtain ⟨hle, hle'⟩ := d.span_within hd.laid
  have hempty {part : Text} (hp : part ⊆ source) (hl : ∀ c ∈ part, Blank.isLayout c = true) :
      part.length = 0 := by
    rw [List.length_eq_zero_iff, List.eq_nil_iff_forall_not_mem]
    intro c hc
    have hlayout := hl c hc
    rw [h c (hp hc)] at hlayout
    cases hlayout
  have hstart := hempty (List.take_subset _ _) hfront
  have hstop := hempty (List.drop_subset _ _) hback
  rw [List.length_take] at hstart
  rw [List.length_drop] at hstop
  simp only [Derivation.span] at hstart hstop ⊢
  congr 1 <;> omega

theorem parenthesized_nested (c : Char) (depth : Nat) :
    Span.parenthesized ⟨0, (nested c depth).length⟩ (nested c depth) = nested c (depth + 1) := by
  have hclose : List.replicate (depth + 1) ')' = List.replicate depth ')' ++ [')'] :=
    List.replicate_succ'
  rw [Span.parenthesized, Span.text, List.take_zero, List.drop_zero, Nat.sub_zero,
    List.take_length, List.drop_length]
  simp [nested, hclose, List.replicate_succ]

theorem nested_refused {limits : Limits} {depth : Nat} (h : limits.stack < depth)
    (whole : Program Unit) : compile limits (.ofText (nested '1' depth)) ≠ .ok whole := by
  intro hc
  obtain ⟨d, hd, hn⟩ := exists_nested (.inl rfl) munch_one depth
  obtain ⟨e, he, ha, -⟩ := compile_eq_ok_iff.mp hc
  rw [← derivation_unique (hd.unique he), hn] at ha
  exact Nat.not_le.mpr h ha.2

theorem root_of_nested {limits : Limits} {depth : Nat} {program : Program Unit}
    (h : compile limits (.ofText (nested '1' depth)) = .ok program) :
    program.source = nested '1' depth ∧ ∃ n : Node Unit, program.root.preorder[0]? = some n ∧
      n.span = some ⟨0, (nested '1' depth).length⟩ := by
  obtain ⟨d, hd, -, rfl⟩ := compile_eq_ok_iff.mp h
  refine ⟨rfl, d.tree, ?_, ?_⟩
  · rw [Node.preorder_eq, List.getElem?_cons_zero]
  · rw [d.tree_span, span_of_no_layout hd fun c hc => ?_]
    rcases List.mem_append.mp hc with hc | hc
    · rw [List.eq_of_mem_replicate hc]
      rfl
    · rcases List.mem_cons.mp hc with rfl | hc
      · rfl
      · rw [List.eq_of_mem_replicate hc]
        rfl

/-- A source that compiles, and the limit allows for one more pair of parentheses around its root,
but the source with that pair is refused: for one pair after the other cannot lead to more of them
than the stack has room for. -/
theorem parenthesized_one_refused :
    (∃ depth, (∃ program : Program Unit,
        compile (.ofNesting (7000 + depth)) (.ofText (nested '1' depth)) = .ok program ∧
        ∃ n span, program.root.preorder[0]? = some n ∧ n.span = some span ∧
          span.parenthesized program.source = nested '1' (depth + 1)) ∧
      ∀ whole : Program Unit,
        compile (.ofNesting (7000 + depth + 1)) (.ofText (nested '1' (depth + 1))) ≠ .ok whole) ∧
    ∀ whole : Program Unit,
      compile (.ofNesting 10000) (.ofText (nested '1' 3000)) ≠ .ok whole := by
  let refused (depth : Nat) : Prop := ∀ whole : Program Unit,
    compile (.ofNesting (7000 + depth)) (.ofText (nested '1' depth)) ≠ .ok whole
  have hlast : refused 3000 := nested_refused (by decide)
  refine ⟨?_, hlast⟩
  have hfirst : ¬refused 0 := fun h => h _ rfl
  obtain ⟨depth, hn, hnext⟩ := Nat.exists_not_and_succ_of_not_zero_of_exists hfirst ⟨3000, hlast⟩
  obtain ⟨program, hp⟩ := not_forall_not.mp hn
  obtain ⟨hs, n, hroot, hspan⟩ := root_of_nested hp
  refine ⟨depth, ⟨program, hp, n, _, hroot, hspan, ?_⟩, hnext⟩
  rw [hs, parenthesized_nested]

end Program

end Reckoner
