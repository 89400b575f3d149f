import Reckoner.Proofs.Environment.Resolution
import Reckoner.Proofs.Node.Substitution
import Reckoner.Proofs.Run.Ample
import Reckoner.Proofs.Run.Steady

/-! # Substitution

With pure functions it makes no difference whether a tree is put in place of a name or the name is
bound to the value of the tree. Every operand, callee and argument is resolved before it is used, so
in one run the tree is evaluated and resolved where in the other the name is resolved. The name must
not come up in any other way, for then only the binding would count.
-/
namespace Reckoner
variable {σ η α β : Type}

namespace Run

theorem Same.within {limits : Limits} {depth : Depth} {run run' : Run σ η α} (h : Same run run') :
    Same (Run.within limits depth run) (Run.within limits depth run') := by
  rcases within_cases limits depth with ⟨e, he⟩ | he
  · rw [he, he]
    exact fun _ _ => rfl
  · rwa [he, he]

theorem Same.number {env env' : Environment η} (label : Text) {operand operand' : Run σ η (Value η)}
    (h : Same (operand >>= Run.resolve env) (operand' >>= Run.resolve env')) :
    Same (Run.number env label operand) (Run.number env' label operand') := by
  unfold Run.number
  rw [← bind_assoc, ← bind_assoc]
  refine h.bind fun v _ _ => ?_
  cases v <;> exact fun _ _ => rfl

end Run

namespace Node
open Run (Same)

/-- What has to hold of a name and a tree for the one to be bound to the value of the other. -/
structure Replaces (calls : Calls σ η) (env : Environment η) (limits : Limits) (name : Text)
    (part : Node η) (v : Value η) : Prop where
  pure : calls.Pure
  not_bound (other : Text) : env.find? other ≠ some (.reference name)
  not_returned (f : Function η) (arguments : List (Value η)) (s : σ) :
    (calls f arguments s).1 ≠ .value (.reference name)
  grounded : v.isReference = false
  value {depth : Depth} (h : limits.Allow (depth + part.extent)) :
    Same (evaluate calls env limits depth part >>= Run.resolve env) (Pure.pure v)

section Substitute
variable {calls : Calls σ η} {env : Environment η} {limits : Limits} {name : Text}
  {part : Node η} {v : Value η}

theorem replaces_of_ground {small : Limits} {s : σ} (hp : calls.Pure)
    (hb : ∀ other, env.find? other ≠ some (.reference name))
    (hr : ∀ f arguments s, (calls f arguments s).1 ≠ .value (.reference name))
    (hv : (part.ground calls env small s).result = .ok v) :
    Replaces calls env limits name part v := by
  obtain ⟨w, t, hw, hres⟩ := Run.exists_ok_of_bind hv
  refine ⟨hp, hb, hr, ?_, fun {depth} ha => ?_⟩
  · have hl := env.resolve_leads w
    rw [Run.resolve_eq_ok.mp hres] at hl
    exact hl.ok.1
  · have he : Node.evaluate calls env limits depth part = Node.evaluate calls env small 0 part :=
      evaluate_ample part ha (allowed_of_evaluate part hw)
    intro s' t'
    rw [he]
    exact (part.ground_steady hp s' s).trans hv

theorem Replaces.resolve (h : Replaces calls env limits name part v) {w : Value η}
    (hw : w ≠ .reference name) :
    Same (Run.resolve env w : Run σ η (Value η)) (Run.resolve (Bindings.insert name v env) w) := by
  intro s t
  simp only [Run.resolve, Environment.resolve_insert h.not_bound hw v]

theorem Replaces.resolve_name (h : Replaces calls env limits name part v) :
    Same (Pure.pure v : Run σ η (Value η))
      (Run.resolve (Bindings.insert name v env) (.reference name)) := by
  intro s t
  have hf : (Bindings.insert name v env).find? name = some v := by
    rw [Bindings.find?_insert, if_pos rfl]
  have hl : Environment.Leads (Bindings.insert name v env) [] (.reference name) [name] (.ok v) :=
    .next List.not_mem_nil hf (.grounded h.grounded)
  simp only [Run.resolve, hl.resolve_eq]
  rfl

/-- No reply is the name, so it does not matter where it is resolved. -/
theorem Replaces.call (h : Replaces calls env limits name part v) (f : Function η)
    (arguments : List (Value η)) :
    Same (Run.call calls f arguments >>= Run.resolve env)
      (Run.call calls f arguments >>= Run.resolve (Bindings.insert name v env)) := by
  refine Same.bind (Run.Steady.call h.pure f arguments) fun w s hw => h.resolve ?_
  rintro rfl
  exact h.not_returned f arguments s (Run.reply_of_call hw)

theorem evaluateAll_substitute {arguments : List (Node η)} {depth : Depth}
    (hn : ∀ a ∈ arguments, limits.Allow (depth.below 3 + (substitute name part a).extent) →
      Same (evaluate calls env limits (depth.below 3) (substitute name part a) >>=
          Run.resolve env)
        (evaluate calls (Bindings.insert name v env) limits (depth.below 3) a >>=
          Run.resolve (Bindings.insert name v env)))
    (ha : limits.Allow (depth.below 2 + extentAll (substituteAll name part arguments))) :
    Same (evaluateAll calls env limits (depth.below 3) (substituteAll name part arguments))
      (evaluateAll calls (Bindings.insert name v env) limits (depth.below 3) arguments) := by
  induction arguments with
  | nil => exact fun _ _ => rfl
  | cons n ns ih =>
    obtain ⟨hfirst, hrest⟩ := List.forall_mem_cons.mp hn
    rw [substituteAll, extentAll_cons, Depth.add_max, Limits.allow_max, Depth.add_listed] at ha
    rw [substituteAll, evaluateAll, evaluateAll, ← bind_assoc, ← bind_assoc]
    exact (hfirst ha.1).bind fun w _ _ => (ih hrest ha.2).bind fun ws _ _ _ _ => rfl

/-- A tree in place of a name, and the name bound to the value of the tree. -/
theorem Replaces.evaluate (h : Replaces calls env limits name part v) (node : Node η)
    {depth : Depth} (ha : limits.Allow (depth + (substitute name part node).extent)) :
    Same (Node.evaluate calls env limits depth (substitute name part node) >>= Run.resolve env)
      (Node.evaluate calls (Bindings.insert name v env) limits depth node >>=
        Run.resolve (Bindings.insert name v env)) := by
  induction node generalizing depth with
  | value w span =>
    have hnode (hw : w ≠ .reference name) : Same
        (Node.evaluate calls env limits depth (.value w span) >>= Run.resolve env)
        (Node.evaluate calls (Bindings.insert name v env) limits depth (.value w span) >>=
          Run.resolve (Bindings.insert name v env)) := by
      rw [Node.evaluate, Node.evaluate, Run.within_bind, Run.within_bind]
      exact (h.resolve hw).within
    cases w with
    | reference other =>
      rw [substitute] at ha ⊢
      by_cases hw : other = name
      · subst hw
        rw [if_pos rfl] at ha ⊢
        rw [Node.evaluate, Run.within_allowed (ha.mono (Depth.le_add_right _ _))]
        exact fun s t => (h.value ha s s).trans (h.resolve_name s t)
      · rw [if_neg hw]
        exact hnode fun he => hw (Value.reference.inj he)
    | _ => exact hnode (by simp)
  | binary op left right span ihl ihr =>
    rw [substitute, extent_binary, ← Depth.below_add, Depth.add_max, Limits.allow_max] at ha
    rw [substitute, Node.evaluate, Node.evaluate, Run.within_bind, Run.within_bind, bind_assoc,
      bind_assoc]
    refine (((ihl ha.1).number _).bind fun x _ _ => ?_).within
    rw [bind_assoc, bind_assoc]
    refine ((ihr ha.2).number _).bind fun y _ _ => ?_
    rw [pure_bind, pure_bind]
    exact h.resolve (by simp)
  | negate operand span ih =>
    rw [substitute, extent_negate, ← Depth.below_add] at ha
    rw [substitute, Node.evaluate, Node.evaluate, Run.within_bind, Run.within_bind, bind_assoc,
      bind_assoc]
    refine (((ih ha).number _).bind fun x _ _ => ?_).within
    rw [pure_bind, pure_bind]
    exact h.resolve (by simp)
  | call callee arguments span ihc iha =>
    rw [substitute, extent_call, ← Depth.below_add, Depth.add_max, Limits.allow_max] at ha
    have harguments : Same
        (evaluateAll calls env limits (depth.below 3) (substituteAll name part arguments))
        (evaluateAll calls (Bindings.insert name v env) limits (depth.below 3) arguments) :=
      evaluateAll_substitute (fun a hm ha => iha a hm ha) ha.2
    rw [substitute, Node.evaluate, Node.evaluate, Run.within_bind, Run.within_bind]
    refine Same.within ?_
    rw [← bind_assoc, ← bind_assoc, bind_assoc (_ >>= _), bind_assoc (_ >>= _)]
    refine (ihc ha.1).bind fun c _ _ => ?_
    cases c with
    | function f =>
      rw [bind_assoc, bind_assoc]
      exact harguments.bind fun vs _ _ => h.call f vs
    | _ => exact fun _ _ => rfl

/-- Running a tree with another one in place of a name, and with the name bound to its value. -/
theorem Replaces.ground (h : Replaces calls env limits name part v) (node : Node η)
    (ha : limits.Allow (substitute name part node).extent) :
    Same ((substitute name part node).ground calls env limits)
      (node.ground calls (Bindings.insert name v env) limits) :=
  h.evaluate node (by rwa [Depth.zero_add])

end Substitute

end Node

end Reckoner
