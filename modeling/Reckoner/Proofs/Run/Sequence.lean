import Reckoner.Evaluation
import Reckoner.Proofs.Node.Shape

/-! # Runs one after another

Runs form a lawful monad: what is left of a run after its first part goes on from the state and
appends to the trace, and an error leaves nothing. Evaluation is made of a few runs put one after
another, so it has every property that these have and that lasts.
-/
namespace Reckoner
variable {σ η α β : Type}

namespace Run

theorem bind_eq (run : Run σ η α) (next : α → Run σ η β) (s : σ) : (run >>= next) s =
    match run s with
    | ⟨.error e, s', events⟩ => ⟨.error e, s', events⟩
    | ⟨.ok a, s', events⟩ =>
      ⟨(next a s').result, (next a s').state, events ++ (next a s').events⟩ := rfl

theorem bind_of_ok {run : Run σ η α} {next : α → Run σ η β} {s s' : σ} {a : α}
    {events : List (Event η)} (h : run s = ⟨.ok a, s', events⟩) : (run >>= next) s =
      ⟨(next a s').result, (next a s').state, events ++ (next a s').events⟩ := by
  rw [bind_eq, h]

theorem bind_of_error {run : Run σ η α} {next : α → Run σ η β} {s s' : σ} {e : Stop}
    {events : List (Event η)} (h : run s = ⟨.error e, s', events⟩) :
    (run >>= next) s = ⟨.error e, s', events⟩ := by
  rw [bind_eq, h]

instance : LawfulMonad (Run σ η) := by
  refine LawfulMonad.mk' _ (fun run => ?_) (fun a next => ?_) (fun run next last => ?_)
  · funext s
    change (run >>= fun a => Pure.pure a) s = run s
    rcases h : run s with ⟨result, s', events⟩
    cases result with
    | error e => rw [bind_of_error h]
    | ok a =>
      rw [bind_of_ok h]
      exact congrArg (Outcome.mk _ _) (List.append_nil events)
  · funext s
    have hp : (Pure.pure a : Run σ η _) s = ⟨.ok a, s, []⟩ := rfl
    rw [bind_of_ok hp]
    rfl
  · funext s
    rcases h : run s with ⟨result, s', events⟩
    cases result with
    | error e => rw [bind_of_error (bind_of_error h), bind_of_error h]
    | ok a =>
      rw [bind_of_ok h]
      rcases hn : next a s' with ⟨result, s'', more⟩
      have hb : (run >>= next) s = ⟨result, s'', events ++ more⟩ := by rw [bind_of_ok h, hn]
      cases result with
      | error e => rw [bind_of_error hb, bind_of_error hn]
      | ok b => rw [bind_of_ok hb, bind_of_ok hn, List.append_assoc]

theorem reply_of_call {calls : Calls σ η} {f : Function η} {arguments : List (Value η)} {s : σ}
    {v : Value η} (h : (call calls f arguments s).result = .ok v) :
    (calls f arguments s).1 = .value v := by
  simp only [call] at h
  cases hr : (calls f arguments s).1 <;> rw [hr] at h <;> cases h
  rfl

theorem mapError_eq_ok {ε ε' : Type} {f : ε → ε'} {result : Except ε α} {a : α} :
    result.mapError f = .ok a ↔ result = .ok a := by
  cases result with
  | error e => exact ⟨nofun, nofun⟩
  | ok b =>
    rw [Except.mapError, Except.ok.injEq, Except.ok.injEq]

theorem resolve_eq_ok {env : Environment η} {v w : Value η} {s : σ} :
    (resolve env v s).result = .ok w ↔ (env.resolve v).result = .ok w :=
  mapError_eq_ok

section Within
variable {limits : Limits} {depth : Depth}

/-- A depth stops whatever runs there, or it makes no difference. -/
theorem within_cases (limits : Limits) (depth : Depth) :
    (∃ e, ∀ (α : Type) (run : Run σ η α), within limits depth run = stop e) ∨
      ∀ (α : Type) (run : Run σ η α), within limits depth run = run := by
  unfold within
  by_cases hs : limits.stack < depth.places
  · exact .inl ⟨_, fun _ _ => if_pos hs⟩
  · simp only [if_neg hs]
    by_cases hn : limits.nesting < depth.levels
    · exact .inl ⟨_, fun _ _ => if_pos hn⟩
    · exact .inr fun _ _ => if_neg hn

theorem within_bind (run : Run σ η α) (next : α → Run σ η β) :
    (within limits depth run >>= next) = within limits depth (run >>= next) := by
  rcases within_cases limits depth with ⟨e, h⟩ | h
  · rw [h, h]
    rfl
  · rw [h, h]

end Within

theorem number_eq (env : Environment η) (label : Text) (operand : Run σ η (Value η)) :
    number env label operand = operand >>= fun v => number env label (Pure.pure v) := by
  simp only [number, pure_bind]

/-- A property that runs have which do nothing, stop or resolve a value, and that is kept when one
run follows another. -/
structure Lasting (env : Environment η) (P : (α : Type) → Run σ η α → Prop) : Prop where
  pure {α : Type} (a : α) : P α (Pure.pure a)
  stop {α : Type} (e : Stop) : P α (stop e)
  resolve (v : Value η) : P (Value η) (resolve env v)
  bind {α β : Type} {run : Run σ η α} {next : α → Run σ η β} (h : P α run)
    (hn : ∀ a, P β (next a)) : P β (run >>= next)

section Lasting
variable {env : Environment η} {P : (α : Type) → Run σ η α → Prop}

theorem Lasting.within (hP : Lasting env P) {limits : Limits} {depth : Depth} {run : Run σ η α}
    (h : P α run) : P α (within limits depth run) := by
  rcases within_cases limits depth with ⟨e, he⟩ | he
  · rw [he]
    exact hP.stop e
  · rwa [he]

theorem Lasting.number (hP : Lasting env P) {label : Text} {operand : Run σ η (Value η)}
    (h : P (Value η) operand) : P Float (number env label operand) := by
  refine hP.bind h fun v => hP.bind (hP.resolve v) fun w => ?_
  cases w with
  | number x => exact hP.pure x
  | _ => exact hP.stop _

end Lasting

end Run

namespace Node
open Run (Lasting)

section Lasting
variable {env : Environment η} {P : (α : Type) → Run σ η α → Prop} {calls : Calls σ η}
  {limits : Limits}

theorem evaluateAll_lasting (hP : Lasting env P) {arguments : List (Node η)}
    (h : ∀ a ∈ arguments, ∀ depth, P _ (evaluate calls env limits depth a)) (depth : Depth) :
    P _ (evaluateAll calls env limits depth arguments) := by
  induction arguments with
  | nil => exact hP.pure []
  | cons n ns ih =>
    obtain ⟨hn, hns⟩ := List.forall_mem_cons.mp h
    rw [evaluateAll]
    exact hP.bind (hn depth) fun v => hP.bind (hP.resolve v) fun w =>
      hP.bind (ih hns) fun ws => hP.pure (w :: ws)

/-- Evaluation has a lasting property if all calls have it. -/
theorem evaluate_lasting (hP : Lasting env P)
    (hc : ∀ f arguments, P _ (Run.call calls f arguments)) (node : Node η) (depth : Depth) :
    P _ (evaluate calls env limits depth node) := by
  induction node generalizing depth with
  | value v span => exact hP.within (hP.pure v)
  | binary op left right span ihl ihr =>
    rw [evaluate]
    refine hP.within ?_
    exact hP.bind (hP.number (ihl (depth.below 2))) fun x =>
      hP.bind (hP.number (ihr (depth.below 2))) fun y => hP.pure (Value.number (op.apply x y))
  | negate operand span ih =>
    rw [evaluate]
    refine hP.within ?_
    exact hP.bind (hP.number (ih (depth.below 2))) fun x => hP.pure (Value.number (-x))
  | call callee arguments span ihc iha =>
    rw [evaluate]
    refine hP.within (hP.bind (ihc (depth.below 2)) fun v => hP.bind (hP.resolve v) fun c => ?_)
    cases c with
    | function f => exact hP.bind (evaluateAll_lasting hP iha (depth.below 3)) fun vs => hc f vs
    | _ => exact hP.stop _

theorem ground_lasting (hP : Lasting env P)
    (hc : ∀ f arguments, P _ (Run.call calls f arguments)) (node : Node η) :
    P _ (node.ground calls env limits) :=
  hP.bind (node.evaluate_lasting hP hc 0) fun v => hP.resolve v

end Lasting

end Node

end Reckoner
