import Reckoner.Proofs.Node.Shape
import Reckoner.Proofs.Run.Sequence

/-! # Evaluation as a list of steps

The steps of a tree are known before anything runs: what is evaluated, resolved, checked and called,
in which order. They work on a stack of values not yet looked at, left operands, and functions with
the arguments that they have got so far. Taking the steps one by one until one fails is evaluation.
-/
namespace Reckoner
variable {σ η : Type}

/-- `left` looks at a left operand before `right` is evaluated, `callee` at a callee before its
arguments are, and `argument` at the latest argument. `invoke` calls for the given node. -/
inductive Step (η : Type)
  | enter (depth : Depth)
  | value (v : Value η)
  | left (op : Operator) (right : Node η)
  | right (op : Operator)
  | negate
  | callee (arguments : List (Node η))
  | argument
  | invoke (node : Node η)
  | answer

inductive Cell (η : Type)
  | value (v : Value η)
  | number (x : Float)
  | pending (f : Function η) (arguments : List (Value η))

namespace Step
open Node (operatorLabel negateLabel)

/-- Takes one step. The last line stands for steps that the stack does not fit. -/
def perform (calls : Calls σ η) (env : Environment η) (limits : Limits) :
    List (Cell η) → Step η → Run σ η (List (Cell η))
  | stack, .enter depth => .within limits depth (pure stack)
  | stack, .value v => pure (.value v :: stack)
  | .value v :: stack, .left op _ => do
    let x ← Run.number env (operatorLabel op) (pure v)
    pure (.number x :: stack)
  | .value v :: .number x :: stack, .right op => do
    let y ← Run.number env (operatorLabel op) (pure v)
    pure (.value (.number (op.apply x y)) :: stack)
  | .value v :: stack, .negate => do
    let x ← Run.number env negateLabel (pure v)
    pure (.value (.number (-x)) :: stack)
  | .value v :: stack, .callee _ => do
    let c ← Run.resolve env v
    match c with
    | .function f => pure (.pending f [] :: stack)
    | other => Run.stop (.showing .notAFunction other)
  | .value v :: .pending f vs :: stack, .argument => do
    let w ← Run.resolve env v
    pure (.pending f (vs ++ [w]) :: stack)
  | .pending f vs :: stack, .invoke _ => do
    let v ← Run.call calls f vs
    pure (.value v :: stack)
  | .value v :: stack, .answer => do
    let w ← Run.resolve env v
    pure (.value w :: stack)
  | _, _ => Run.stop .stackExhausted

/-- Takes steps in order as long as none fails. -/
def travel (calls : Calls σ η) (env : Environment η) (limits : Limits) (stack : List (Cell η))
    (steps : List (Step η)) : Run σ η (List (Cell η)) :=
  steps.foldlM (perform calls env limits) stack

section Travel
variable (calls : Calls σ η) (env : Environment η) (limits : Limits) (stack : List (Cell η))

@[simp] theorem travel_nil : travel calls env limits stack [] = pure stack := rfl

@[simp] theorem travel_cons (step : Step η) (steps : List (Step η)) :
    travel calls env limits stack (step :: steps) =
      perform calls env limits stack step >>= fun next => travel calls env limits next steps :=
  List.foldlM_cons

@[simp] theorem travel_append (before after : List (Step η)) :
    travel calls env limits stack (before ++ after) =
      travel calls env limits stack before >>= fun next => travel calls env limits next after :=
  List.foldlM_append

end Travel

end Step

namespace Node

mutual

/-- The steps of evaluating a node at a depth. -/
def steps (depth : Depth) : Node η → List (Step η)
  | .value v _ => [.enter depth, .value v]
  | .binary op left right _ =>
    .enter depth :: (left.steps (depth.below 2) ++ .left op right ::
      (right.steps (depth.below 2) ++ [.right op]))
  | .negate operand _ => .enter depth :: (operand.steps (depth.below 2) ++ [.negate])
  | .call callee arguments span =>
    .enter depth :: (callee.steps (depth.below 2) ++ .callee arguments ::
      (stepsAll (depth.below 3) arguments ++ [.invoke (.call callee arguments span)]))

def stepsAll (depth : Depth) : List (Node η) → List (Step η)
  | [] => []
  | n :: ns => n.steps depth ++ .argument :: stepsAll depth ns

end

/-- The steps of a whole tree, whose value is resolved in the end. -/
def course (root : Node η) : List (Step η) := root.steps 0 ++ [.answer]

open Step (perform travel)

section Travel
variable (calls : Calls σ η) (env : Environment η) (limits : Limits)

/-- The steps of a node are its evaluation. -/
def Travels (node : Node η) : Prop := ∀ (depth : Depth) (stack : List (Cell η)),
  travel calls env limits stack (node.steps depth) =
    evaluate calls env limits depth node >>= fun v => pure (.value v :: stack)

variable {calls env limits}

theorem travel_stepsAll {arguments : List (Node η)}
    (h : ∀ a ∈ arguments, Travels calls env limits a) (depth : Depth) (f : Function η)
    (vs : List (Value η)) (stack : List (Cell η)) :
    travel calls env limits (.pending f vs :: stack) (stepsAll depth arguments) =
      evaluateAll calls env limits depth arguments >>= fun ws =>
        pure (.pending f (vs ++ ws) :: stack) := by
  induction arguments generalizing vs with
  | nil => simp [stepsAll, evaluateAll]
  | cons n ns ih =>
    obtain ⟨hn, hns⟩ := List.forall_mem_cons.mp h
    simp [stepsAll, evaluateAll, perform, hn depth, ih hns]

theorem travel_steps (node : Node η) : Travels calls env limits node := by
  -- both sides are binds that end in `pure`, and are compared as binds
  induction node with
  | value v span =>
    intro depth stack
    simp [steps, evaluate, perform, Run.within_bind, -bind_pure_comp]
  | binary op left right span ihl ihr =>
    intro depth stack
    simp [steps, evaluate, perform, Run.within_bind, ihl (depth.below 2), ihr (depth.below 2),
      Run.number_eq env _ (evaluate calls env limits (depth.below 2) left),
      Run.number_eq env _ (evaluate calls env limits (depth.below 2) right), -bind_pure_comp]
  | negate operand span ih =>
    intro depth stack
    simp [steps, evaluate, perform, Run.within_bind, ih (depth.below 2),
      Run.number_eq env _ (evaluate calls env limits (depth.below 2) operand), -bind_pure_comp]
  | call callee arguments span ihc iha =>
    intro depth stack
    simp only [steps, evaluate, Step.travel_cons, Step.travel_append, Step.travel_nil, perform,
      Run.within_bind, pure_bind, bind_assoc, ihc (depth.below 2)]
    refine congrArg (Run.within limits depth) (bind_congr fun v => bind_congr fun c => ?_)
    cases c with
    | function f =>
      simp [travel_stepsAll iha]
    | _ => rfl

theorem travel_course (root : Node η) :
    travel calls env limits [] root.course =
      root.ground calls env limits >>= fun v => pure [.value v] := by
  simp [course, ground, perform, travel_steps root 0 []]

end Travel

end Node

end Reckoner
