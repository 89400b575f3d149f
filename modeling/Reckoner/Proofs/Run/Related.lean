import Reckoner.Proofs.Run.Sequence

/-! # Evaluation in two settings

A tree that is evaluated in two environments, or under two limits, makes the same moves in both as
long as the values that come up are the same. So a relation between runs that holds of the single
moves, and is kept when runs follow one another, holds between the two evaluations.
-/
namespace Reckoner
variable {σ η : Type}

namespace Run

/-- A relation between a run in one setting and a run in another that holds of all moves. -/
structure Relates (calls : Calls σ η) (env env' : Environment η) (limits limits' : Limits)
    (R : (α : Type) → Run σ η α → Run σ η α → Prop) : Prop where
  pure {α : Type} (a : α) : R α (Pure.pure a) (Pure.pure a)
  stop {α : Type} (e : Stop) : R α (stop e) (stop e)
  resolve (v : Value η) : R (Value η) (resolve env v) (resolve env' v)
  call (f : Function η) (arguments : List (Value η)) :
    R (Value η) (call calls f arguments) (call calls f arguments)
  within {α : Type} {run run' : Run σ η α} (depth : Depth) (h : R α run run') :
    R α (within limits depth run) (within limits' depth run')
  bind {α β : Type} {run run' : Run σ η α} {next next' : α → Run σ η β} (h : R α run run')
    (hn : ∀ a, R β (next a) (next' a)) : R β (run >>= next) (run' >>= next')

variable {calls : Calls σ η} {env env' : Environment η} {limits limits' : Limits}
  {R : (α : Type) → Run σ η α → Run σ η α → Prop}

theorem Relates.number (hR : Relates calls env env' limits limits' R) (label : Text)
    {operand operand' : Run σ η (Value η)} (h : R (Value η) operand operand') :
    R Float (number env label operand) (number env' label operand') := by
  refine hR.bind h fun v => hR.bind (hR.resolve v) fun w => ?_
  cases w with
  | number x => exact hR.pure x
  | _ => exact hR.stop _

end Run

namespace Node
open Run (Relates)
variable {calls : Calls σ η} {env env' : Environment η} {limits limits' : Limits}
  {R : (α : Type) → Run σ η α → Run σ η α → Prop}

theorem evaluateAll_related (hR : Relates calls env env' limits limits' R)
    {arguments : List (Node η)} (h : ∀ a ∈ arguments, ∀ depth,
      R _ (evaluate calls env limits depth a) (evaluate calls env' limits' depth a))
    (depth : Depth) : R _ (evaluateAll calls env limits depth arguments)
      (evaluateAll calls env' limits' depth arguments) := by
  induction arguments with
  | nil => exact hR.pure []
  | cons n ns ih =>
    obtain ⟨hn, hns⟩ := List.forall_mem_cons.mp h
    rw [evaluateAll, evaluateAll]
    exact hR.bind (hn depth) fun v => hR.bind (hR.resolve v) fun w =>
      hR.bind (ih hns) fun ws => hR.pure (w :: ws)

/-- The evaluations of a tree in two settings are related if their moves are. -/
theorem evaluate_related (hR : Relates calls env env' limits limits' R) (node : Node η)
    (depth : Depth) :
    R _ (evaluate calls env limits depth node) (evaluate calls env' limits' depth node) := by
  induction node generalizing depth with
  | value v span => exact hR.within depth (hR.pure v)
  | binary op left right span ihl ihr =>
    rw [evaluate, evaluate]
    refine hR.within depth ?_
    exact hR.bind (hR.number _ (ihl (depth.below 2))) fun x =>
      hR.bind (hR.number _ (ihr (depth.below 2))) fun y => hR.pure (Value.number (op.apply x y))
  | negate operand span ih =>
    rw [evaluate, evaluate]
    refine hR.within depth ?_
    exact hR.bind (hR.number _ (ih (depth.below 2))) fun x => hR.pure (Value.number (-x))
  | call callee arguments span ihc iha =>
    rw [evaluate, evaluate]
    refine hR.within depth ?_
    refine hR.bind (ihc (depth.below 2)) fun v => hR.bind (hR.resolve v) fun c => ?_
    cases c with
    | function f =>
      exact hR.bind (evaluateAll_related hR iha (depth.below 3)) fun vs => hR.call f vs
    | _ => exact hR.stop _

theorem ground_related (hR : Relates calls env env' limits limits' R) (node : Node η) :
    R _ (node.ground calls env limits) (node.ground calls env' limits') :=
  hR.bind (node.evaluate_related hR 0) fun v => hR.resolve v

end Node

end Reckoner
