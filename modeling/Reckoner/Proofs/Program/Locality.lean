import Reckoner.Proofs.Grammar.Part
import Reckoner.Proofs.Program.Compile
import Reckoner.Proofs.Run.Limited
import Reckoner.Proofs.Run.Steady

/-! # Parts of a program

The text under a node's span is a program by itself. Cut out and compiled under the same limits it
gives the node again, with spans that count from its own start, and executing it ends as evaluating
and resolving the node does. An exhausted stack is the exception: only an execution turns it into an
error, and the two need not have the same stack left.
-/
namespace Reckoner
open Token (Covers)

namespace Derivation
variable {level : Level} (d : Derivation (.expression level))

theorem head?_yield : d.yield.head? = some d.firstToken := by
  obtain ⟨rest, hr⟩ := d.yield_eq_cons
  rw [hr, List.head?_cons]

theorem getLast?_yield : d.yield.getLast? = some d.lastToken := by
  obtain ⟨rest, hr⟩ := d.yield_eq_concat
  rw [hr, List.getLast?_concat]

theorem firstToken_le {length : Nat} (h : Token.Laid length d.yield) :
    ∀ t ∈ d.yield, d.firstToken.start ≤ t.start := by
  obtain ⟨rest, hr⟩ := d.yield_eq_cons
  have hp := h.ordered
  rw [hr] at hp ⊢
  intro t ht
  rcases List.mem_cons.mp ht with rfl | ht
  · exact Nat.le_refl _
  · have hle := (List.pairwise_cons.mp hp).1 t ht
    rw [Token.stop_eq] at hle
    omega

theorem covers_alone {source : Text} {whole : Sentence} (h : Covers source whole.yield)
    (hi : d.yield <:+: whole.yield) :
    Covers (d.span.text source) (d.back d.firstToken.start).alone.yield := by
  obtain ⟨before, after, hy⟩ := hi
  rw [← hy] at h
  simp only [alone_yield, back_yield]
  exact h.part d.head?_yield d.getLast?_yield

end Derivation

namespace Program
variable {η : Type} {limits : Limits}

theorem compile_source {source : Source} {program : Program η}
    (h : compile limits source = .ok program) :
    compile limits (.ofText program.source) = .ok program := by
  unfold compile at h
  cases ht : source.text with
  | error error =>
    rw [ht] at h
    cases h
  | ok text =>
    rw [ht] at h
    have hc : compile limits (.ofText text) = .ok program := (compile_ofText limits text).trans h
    obtain ⟨d, -, -, rfl⟩ := compile_eq_ok_iff.mp hc
    exact hc

/-- How an execution ends, by how the run of its tree does: with the same value or the same error.
An exhausted stack stops the run and is an error of the execution. -/
inductive Ends {α : Type} : Except Stop α → Except Failure α → Prop
  | value (a : α) : Ends (.ok a) (.ok a)
  | error (e : ExecutionError) : Ends (.error (.error e)) (.error (.error e))
  | uncaught : Ends (.error .uncaught) (.error .uncaught)
  | exhausted : Ends (.error .stackExhausted) (.error (.error .stackExhausted))

theorem ends_mapError {α : Type} (result : Except Stop α) :
    Ends result (result.mapError Stop.toFailure) := by
  rcases result with (e | _ | _) | a
  · exact .error e
  · exact .exhausted
  · exact .uncaught
  · exact .value a

/-- The program that the text under a node's span is. -/
structure Reproduces (part : Program η) (limits : Limits) (source : Text) (n : Node η)
    (span : Span) : Prop where
  compiles : compile limits (.ofText (span.text source)) = .ok part
  source_eq : part.source = span.text source
  root_eq : part.root.moved span.start = n
  within : ∀ m ∈ part.root.preorder, ∃ s, m.span = some s ∧ s.Within part.source.length
  executes : ∀ (σ : Type) (calls : Calls σ η) (env : Environment η) (running : Limits) (s : σ),
    let direct := n.ground calls env running s
    let again := part.execute calls env running s
    Ends direct.result again.result ∧ again.state = direct.state ∧ again.events = direct.events
  agrees : ∀ (σ : Type) (calls : Calls σ η), calls.Pure →
    ∀ (env : Environment η) (running other : Limits), other.nesting = running.nesting →
      ∀ s t : σ,
        let direct := n.ground calls env running s
        let again := part.execute calls env other t
        Ends direct.result again.result ∨ direct.result = .error .stackExhausted ∨
          again.result = .error (.error .stackExhausted)

theorem reproduces_of_root {part : Program η} {source : Text} {n : Node η} {span : Span}
    (hc : compile limits (.ofText (span.text source)) = .ok part)
    (hr : part.root.moved span.start = n) : part.Reproduces limits source n span := by
  obtain ⟨d, hd, -, rfl⟩ := compile_eq_ok_iff.mp hc
  have hg {σ : Type} (calls : Calls σ η) (env : Environment η) (running : Limits) :
      n.ground calls env running = (d.tree : Node η).ground calls env running := by
    rw [← hr, Node.ground_moved]
  refine ⟨hc, rfl, hr, fun m hm => ?_, fun σ calls env running s => ?_, ?_⟩
  · obtain ⟨level, e, rfl, -, hi⟩ := d.hasPart hm
    exact ⟨e.span, e.tree_span, e.span_within (hd.laid.sublist hi.sublist)⟩
  · rw [hg, execute]
    exact ⟨ends_mapError _, rfl, rfl⟩
  · rintro σ calls hp env ⟨limit, stack⟩ ⟨limit', stack'⟩ hl s t
    obtain rfl : limit' = limit := hl
    simp only [hg, execute]
    rw [Node.ground_steady hp (d.tree : Node η) s t]
    rcases Node.ground_stacks calls env (d.tree : Node η) limit' stack stack' t with he | he | he
    · rw [he]
      exact .inl (ends_mapError _)
    · exact .inr (.inl he)
    · rw [he]
      exact .inr (.inr rfl)

/-- Every node of a compiled program has a span, and the text under it reproduces the node. -/
theorem compile_part {source : Source} {program : Program η}
    (h : compile limits source = .ok program) {n : Node η} (hn : n ∈ program.root.preorder) :
    ∃ span, n.span = some span ∧ span.Within program.source.length ∧
      ∃ part : Program η, part.Reproduces limits program.source n span := by
  obtain ⟨d, hd, ha, hp⟩ := compile_eq_ok_iff.mp (compile_source h)
  rw [congrArg Program.root hp] at hn
  obtain ⟨level, e, rfl, hnest, hi⟩ := d.hasPart hn
  have hl : Token.Laid _ e.yield := hd.laid.sublist hi.sublist
  refine ⟨e.span, e.tree_span, e.span_within hl, ?_⟩
  have hc := e.covers_alone hd hi
  have hnest' : (e.back e.firstToken.start).alone.extent = e.extent := by simp
  refine ⟨_, reproduces_of_root ((compile_sentence hc).1 ?_) ?_⟩
  · rw [hnest']
    exact ha.mono hnest
  · rw [Derivation.alone_tree]
    exact e.back_tree _ (e.firstToken_le hl)

/-- In a negated name in parentheses, the parentheses belong to the name. -/
theorem compile_part_negated :
    compile (.ofNesting 256) (.ofText "-(x)".toList) = .ok (⟨"-(x)".toList,
      .negate (.value (.reference ['x']) (some ⟨1, 4⟩)) (some ⟨0, 4⟩)⟩ : Program Unit) ∧
    ∃ span, (Node.value (.reference ['x']) (some ⟨1, 4⟩) : Node Unit).span = some span ∧
      span.Within 4 ∧ ∃ part : Program Unit, part.Reproduces (.ofNesting 256) "-(x)".toList
        (.value (.reference ['x']) (some ⟨1, 4⟩)) span :=
  ⟨rfl, @compile_part Unit (.ofNesting 256) (.ofText "-(x)".toList)
    ⟨"-(x)".toList, .negate (.value (.reference ['x']) (some ⟨1, 4⟩)) (some ⟨0, 4⟩)⟩ rfl _
    (by simp [Node.preorder])⟩

/-- A pure function that exhausts the stack. Running its call stops without a value and without an
error, and executing the same text ends in an error. -/
theorem exhausted_part_differs :
    let program : Program Unit :=
      ⟨"f()".toList, .call (.value (.reference ['f']) (some ⟨0, 1⟩)) [] (some ⟨0, 3⟩)⟩
    let calls : Calls Unit Unit := fun _ _ s => (.stackExhausted, s)
    let env : Environment Unit := [(['f'], .function ⟨['f'], .foreign ()⟩)]
    calls.Pure ∧ Span.text ⟨0, 3⟩ "f()".toList = "f()".toList ∧
    compile (.ofNesting 256) (.ofText "f()".toList) = .ok program ∧
    (program.execute calls env (.ofNesting 256) ()).result = .error (.error .stackExhausted) ∧
    ¬∃ outcome : Except ExecutionError (Value Unit),
      (program.root.ground calls env (.ofNesting 256) ()).result = outcome.mapError .error := by
  intro program calls env
  refine ⟨fun _ _ _ _ => rfl, rfl, rfl, rfl, fun ⟨outcome, he⟩ => ?_⟩
  have hr : (program.root.ground calls env (.ofNesting 256) ()).result = .error .stackExhausted :=
    rfl
  rw [hr] at he
  cases outcome <;> cases he

end Program

end Reckoner
