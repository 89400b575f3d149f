import Reckoner.Limits
import Reckoner.Program
import Reckoner.Run

/-! # Evaluation

A node evaluates to a value that may still be a reference; whoever uses it resolves it first. So
operands, callees and arguments are resolved each before the next one is touched, the left before
the right, the callee before its arguments. A node's depth is checked before anything in it is
evaluated, for which the stack must have a place: a level takes two places on it, and three if it is
an argument's. A run that exhausts the stack fails with an error; an exception of another kind
passes through.
-/
namespace Reckoner
variable {σ η : Type}

def Stop.showing (error : Text → ExecutionError) (v : Value η) : Stop :=
  match v.written? with
  | some shown => .error (error shown)
  | none => .uncaught

namespace Run

def within (limits : Limits) (depth : Depth) {α : Type} (run : Run σ η α) : Run σ η α :=
  if limits.stack < depth.places then stop .stackExhausted
  else if limits.nesting < depth.levels then fail (.nestingLimit limits.nesting)
  else run

def number (env : Environment η) (label : Text) (operand : Run σ η (Value η)) : Run σ η Float := do
  let v ← resolve env (← operand)
  match v with
  | .number x => Pure.pure x
  | other => stop (.showing (.numbersRequired label) other)

end Run

namespace Node

mutual

def evaluate (calls : Calls σ η) (env : Environment η) (limits : Limits) (depth : Depth) :
    Node η → Run σ η (Value η)
  | .value v _ => .within limits depth (pure v)
  | .binary op left right _ => .within limits depth do
    let x ← Run.number env (operatorLabel op) (evaluate calls env limits (depth.below 2) left)
    let y ← Run.number env (operatorLabel op) (evaluate calls env limits (depth.below 2) right)
    pure (.number (op.apply x y))
  | .negate operand _ => .within limits depth do
    let x ← Run.number env negateLabel (evaluate calls env limits (depth.below 2) operand)
    pure (.number (-x))
  | .call callee arguments _ => .within limits depth do
    let c ← Run.resolve env (← evaluate calls env limits (depth.below 2) callee)
    match c with
    | .function f => do
      let vs ← evaluateAll calls env limits (depth.below 3) arguments
      Run.call calls f vs
    | other => Run.stop (.showing .notAFunction other)

def evaluateAll (calls : Calls σ η) (env : Environment η) (limits : Limits) (depth : Depth) :
    List (Node η) → Run σ η (List (Value η))
  | [] => pure []
  | n :: ns => do
    let v ← Run.resolve env (← evaluate calls env limits depth n)
    let vs ← evaluateAll calls env limits depth ns
    pure (v :: vs)

end

def ground (calls : Calls σ η) (env : Environment η) (limits : Limits) (root : Node η) :
    Run σ η (Value η) := do
  Run.resolve env (← evaluate calls env limits 0 root)

end Node

/-- How an execution fails: with an error, or with what nothing in it catches. -/
inductive Failure
  | error (e : ExecutionError)
  | uncaught
  deriving DecidableEq

def Stop.toFailure : Stop → Failure
  | .error e => .error e
  | .stackExhausted => .error .stackExhausted
  | .uncaught => .uncaught

def Program.execute (calls : Calls σ η) (env : Environment η) (limits : Limits)
    (program : Program η) (s : σ) : Outcome Failure σ η (Value η) :=
  let outcome := program.root.ground calls env limits s
  ⟨outcome.result.mapError Stop.toFailure, outcome.state, outcome.events⟩

end Reckoner
