import Reckoner.Proofs.Grammar.Substitution
import Reckoner.Proofs.Program.Arithmetic
import Reckoner.Proofs.Program.Diagnosis
import Reckoner.Proofs.Run.Substitution

/-! # Late binding

A name can be bound to the value of a program, or the source of the program can be written in
parentheses wherever the name stands. With pure functions both give the same, errors included, since
a name is looked up each time it is used. This takes limits that are ample for the longer source;
the configured limit alone is not sufficient.
-/
namespace Reckoner
open Token (Covers expand)
variable {σ η : Type}

/-- A source with another one in parentheses in place of a name is a sentence, and its tree is the
one tree with the other in place of the name. -/
theorem Derivation.exists_expanded {source part : Text} {d e : Sentence}
    (hd : Covers source d.yield) (he : Covers part e.yield) (name : Text) : ∃ w : Sentence,
      Covers (expand name part source) w.yield ∧
      (w.tree : Node η).bare = Node.substitute name e.tree.bare d.tree.bare := by
  obtain ⟨tokens, hc, ha⟩ := hd.expand he name
  rw [← yield_substitute] at ha
  obtain ⟨w, hw, rfl⟩ := exists_similar (fun _ _ h => h.1) _ ha
  exact ⟨w, hc, (hw.bare_tree fun _ _ h => h.2).symm.trans (bare_tree_substitute d)⟩

namespace Program

/-- Executing a source with another one in parentheses in place of a name, and executing it with the
name bound to the value of the other one. -/
theorem execute_expanded {calls : Calls σ η} {env : Environment η} {name : Text} {v : Value η}
    {limits limits' small : Limits} {source source' : Source} {program part : Program η} {s₀ : σ}
    (h : compile limits source = .ok program) (h' : compile limits' source' = .ok part)
    (hp : calls.Pure) (hb : ∀ other, env.find? other ≠ some (.reference name))
    (hr : ∀ f arguments s, (calls f arguments s).1 ≠ .value (.reference name))
    (hv : (part.execute calls env small s₀).result = .ok v) :
    ∃ d : Sentence, Covers (expand name part.source program.source) d.yield ∧
      ∀ ample : Limits, ample.Allow d.extent → ∃ whole : Program η,
        compile ample (.ofText (expand name part.source program.source)) = .ok whole ∧
        ∀ running running' : Limits, running.Allow whole.root.extent →
          running'.Allow whole.root.extent → ∀ s t,
            (whole.execute calls env running s).result =
              (program.execute calls (Bindings.insert name v env) running' t).result := by
  obtain ⟨d, hd, -, hprogram⟩ := compile_eq_ok_iff.mp (compile_source h)
  obtain ⟨e, he, -, hpart⟩ := compile_eq_ok_iff.mp (compile_source h')
  obtain ⟨w, hw, ht⟩ := Derivation.exists_expanded (η := η) hd he name
  have hroot : program.root = d.tree := congrArg Program.root hprogram
  have hroot' : part.root = e.tree := congrArg Program.root hpart
  rw [← hroot, ← hroot'] at ht
  refine ⟨w, hw, fun ample ha => ⟨_, (compile_sentence hw).1 ha, ?_⟩⟩
  intro running running' hrun hrun' s t
  have hvalue : (part.root.bare.ground calls env small s₀).result = .ok v := by
    rw [Node.ground_bare]
    exact Run.mapError_eq_ok.mp hv
  have hreplaces : Node.Replaces calls env running name part.root.bare v :=
    Node.replaces_of_ground hp hb hr hvalue
  have hsame := hreplaces.ground program.root.bare (by rwa [← ht, Node.extent_bare])
  rw [← ht, Node.ground_bare, Node.ground_bare] at hsame
  -- the program goes no deeper than the whole, so both limits are ample for it
  have hextent : program.root.extent ≤ (w.tree : Node η).extent := by
    rw [← Node.extent_bare, ← Node.extent_bare w.tree, ht]
    exact Node.extent_le_substitute _ _ _
  rw [execute, execute, Node.ground_ample (hrun'.mono hextent) (hrun.mono hextent)]
  exact congrArg (Except.mapError Stop.toFailure) (hsame s t)

/-- A call of a function that doubles texts, with a name for its argument. -/
theorem execute_expanded_call :
    let env : Environment Unit := [(['f'], .function ⟨['g'], .foreign ()⟩), (['y'], .text ['a'])]
    let calls : Calls Nat Unit := fun _ arguments s => (match arguments with
      | [.text t] => .value (.text (t ++ t))
      | _ => .other [], s + 1)
    ∃ program part whole : Program Unit,
      compile (.ofNesting 1) (.ofText "f(x)".toList) = .ok program ∧
      compile (.ofNesting 0) (.ofText "y".toList) = .ok part ∧
      (part.execute calls env (.ofNesting 0) 0).result = .ok (.text ['a']) ∧
      compile (.ofNesting 2) (.ofText "f((y))".toList) = .ok whole ∧
      (whole.execute calls env (.ofNesting 1) 0).result = (program.execute calls
        (Bindings.insert ['x'] (.text ['a']) env) (.ofNesting 2) 7).result := by
  intro env calls
  have hp : calls.Pure := fun _ _ _ _ => rfl
  have hb : ∀ other, env.find? other ≠ some (.reference ['x']) := by
    intro other h
    rcases List.mem_cons.mp (Bindings.mem_of_find? h) with h | h
    · cases h
    · cases List.mem_singleton.mp h
  have hr : ∀ f arguments s, (calls f arguments s).1 ≠ .value (.reference ['x']) := by
    intro f arguments s
    simp only [calls]
    split <;> nofun
  have hprogram : compile (.ofNesting 1) (.ofText "f(x)".toList) = .ok (⟨"f(x)".toList,
    .call (.value (.reference ['f']) (some ⟨0, 1⟩)) [.value (.reference ['x']) (some ⟨2, 3⟩)]
      (some ⟨0, 4⟩)⟩ : Program Unit) := rfl
  have hpart : compile (.ofNesting 0) (.ofText "y".toList) = .ok (⟨"y".toList,
    .value (.reference ['y']) (some ⟨0, 1⟩)⟩ : Program Unit) := rfl
  let y : Derivation (.expression .atom) := .parens ⟨.openParen, ['('], 2⟩
    (.product (.unary (.applied (.atom (.name ⟨.name, ['y'], 3⟩ rfl))))) ⟨.closeParen, [')'], 4⟩
    rfl rfl
  let e : Sentence := .product (.unary (.applied (.call (.atom (.name ⟨.name, ['f'], 0⟩ rfl))
    ⟨.openParen, ['('], 1⟩ (.first (.product (.unary (.applied (.atom y)))))
    ⟨.closeParen, [')'], 5⟩ rfl rfl)))
  have he : Covers "f((y))".toList e.yield := Token.covers_iff.mpr rfl
  have ha : (Limits.ofNesting 2).Allow e.extent := by decide
  have hexpand : expand ['x'] "y".toList "f(x)".toList = "f((y))".toList := by decide
  obtain ⟨d, hd, hsame⟩ := execute_expanded hprogram hpart hp hb hr
    (rfl : (execute calls env (.ofNesting 0) _ 0).result = .ok (.text ['a']))
  rw [hexpand] at hd hsame
  rw [derivation_unique (hd.unique he)] at hsame
  obtain ⟨whole, hc, hrun⟩ := hsame _ ha
  refine ⟨_, _, whole, hprogram, hpart, rfl, hc, ?_⟩
  cases Except.ok.inj (hc.symm.trans ((compile_sentence he).1 ha))
  exact hrun _ _ (by decide) (by decide) 0 7

/-! ## Parentheses in parentheses -/

theorem expand_nested (c : Char) (depth inner : Nat) :
    expand ['x'] (nested c inner) (nested 'x' depth) = nested c (depth + 1 + inner) := by
  generalize hf : Token.expanded ['x'] (nested c inner) = f
  have hx (start : Nat) : f ⟨.name, ['x'], start⟩ = '(' :: (nested c inner ++ [')']) := by
    rw [← hf]
    rfl
  have hopen (start : Nat) : f ⟨.openParen, ['('], start⟩ = ['('] := by
    rw [← hf]
    rfl
  have hclose (start : Nat) : f ⟨.closeParen, [')'], start⟩ = [')'] := by
    rw [← hf]
    rfl
  have hsource : nested 'x' depth =
      List.replicate depth '(' ++ 'x' :: List.replicate depth ')' := rfl
  have hrest : ('x' :: List.replicate depth ')').drop ['x'].length =
      List.replicate depth ')' ++ [] := by
    rw [List.append_nil]
    rfl
  rw [expand, hf, hsource, Token.rewritten_marks rfl hopen, Token.rewritten_token f _
    (Token.munch_x depth), hx, hrest, Token.rewritten_marks rfl hclose]
  have hopens : List.replicate (depth + 1 + inner) '(' =
      List.replicate depth '(' ++ '(' :: List.replicate inner '(' := by
    rw [Nat.add_assoc, List.replicate_add, Nat.add_comm 1, List.replicate_succ]
  have hcloses : List.replicate (depth + 1 + inner) ')' =
      List.replicate inner ')' ++ ')' :: List.replicate depth ')' := by
    rw [Nat.add_comm, List.replicate_add, List.replicate_succ]
  simp [nested, hopens, hcloses, Token.rewritten, Token.rewrite, Token.scanFrom]

/-- Both sources compile, and the configured limit allows for the expanded one. -/
theorem nested_expanded_refused :
    ∃ program part : Program Unit,
      compile (.ofNesting 10000) (.ofText (nested 'x' 700)) = .ok program ∧
      compile (.ofNesting 10000) (.ofText (nested '1' 700)) = .ok part ∧
      (∀ (σ : Type) (calls : Calls σ Unit) (env : Environment Unit) (s : σ),
        ∃ v, (part.execute calls env (.ofNesting 10000) s).result = .ok v) ∧
      (∃ d : Sentence, Covers (expand ['x'] part.source program.source) d.yield ∧
        d.extent.levels ≤ (Limits.ofNesting 10000).nesting) ∧
      ∀ whole : Program Unit, compile (.ofNesting 10000)
        (.ofText (expand ['x'] part.source program.source)) ≠ .ok whole := by
  have hallow : (Limits.ofNesting 10000).Allow ⟨700, 700⟩ := by decide
  obtain ⟨d, hd, hdn⟩ := exists_nested (.inr rfl) Token.munch_x 700
  obtain ⟨e, he, hen, x, span, het⟩ := exists_nested_one (η := Unit) 700
  obtain ⟨w, hw, hwn⟩ := exists_nested (.inl rfl) munch_one 1401
  have hprogram : compile (.ofNesting 10000) (.ofText (nested 'x' 700)) =
      .ok (⟨nested 'x' 700, d.tree⟩ : Program Unit) := (compile_sentence hd).1 (hdn ▸ hallow)
  have hpart : compile (.ofNesting 10000) (.ofText (nested '1' 700)) =
      .ok (⟨nested '1' 700, e.tree⟩ : Program Unit) := (compile_sentence he).1 (hen ▸ hallow)
  refine ⟨_, _, hprogram, hpart, fun σ calls env s => ⟨.number x, ?_⟩, ?_⟩
  · have hx : (⟨nested '1' 700, e.tree⟩ : Program Unit).root.number? = some x := by rw [het]; rfl
    have hh : (⟨nested '1' 700, e.tree⟩ : Program Unit).root.height = 0 := by rw [het]; rfl
    rw [execute_number hx (hh ▸ Nat.zero_le _), hh, if_pos (by decide)]
  · rw [expand_nested]
    refine ⟨⟨w, hw, ?_⟩, fun whole hc => ?_⟩
    · rw [hwn]
      decide
    · obtain ⟨u, hu, ha, -⟩ := compile_eq_ok_iff.mp hc
      rw [← derivation_unique (hw.unique hu), hwn] at ha
      exact absurd ha.2 (by decide)

end Program

end Reckoner
