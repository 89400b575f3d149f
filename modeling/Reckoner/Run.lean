import Reckoner.Environment

/-! # Runs

A run may stop with an error, changes the state that called functions see, and leaves a trace of
the names looked up and the functions called, in order. What happened before an error stays in
the trace and in the state.
-/
namespace Reckoner

inductive Event (η : Type)
  | looked (name : Text)
  | called (f : Function η) (arguments : List (Value η))

structure Outcome (ε σ η α : Type) where
  result : Except ε α
  state : σ
  events : List (Event η)

/-- Why a run ends early: an error, no room left on the interpreter's stack, or an exception of
another kind, which nothing in a run catches. -/
inductive Stop
  | error (e : ExecutionError)
  | stackExhausted
  | uncaught
  deriving DecidableEq

/-- What a called function can do: return a value, return something that is no value, report an
error of the run, exhaust the stack, fail in its own way, or end in what nothing catches. -/
inductive Reply (η : Type)
  | value (v : Value η)
  | other (shown : Text)
  | error (e : ExecutionError)
  | stackExhausted
  | failure (message : Text)
  | uncaught

/-- The behaviour of all functions, as a step on a state of their own. -/
abbrev Calls (σ η : Type) := Function η → List (Value η) → σ → Reply η × σ

def Run (σ η α : Type) := σ → Outcome Stop σ η α

namespace Run
variable {σ η α β : Type}

def pure (a : α) : Run σ η α := fun s => ⟨.ok a, s, []⟩

def bind (run : Run σ η α) (next : α → Run σ η β) : Run σ η β := fun s =>
  match run s with
  | ⟨.error e, s', events⟩ => ⟨.error e, s', events⟩
  | ⟨.ok a, s', events⟩ =>
    let rest := next a s'
    ⟨rest.result, rest.state, events ++ rest.events⟩

instance : Monad (Run σ η) where
  pure := pure
  bind := bind

def stop (e : Stop) : Run σ η α := fun s => ⟨.error e, s, []⟩

def fail (e : ExecutionError) : Run σ η α := stop (.error e)

def resolve (env : Environment η) (value : Value η) : Run σ η (Value η) := fun s =>
  let r := env.resolve value
  ⟨r.result.mapError .error, s, r.looked.map .looked⟩

/-- Calls a function. Whatever it does apart from returning a value ends the run. -/
def call (calls : Calls σ η) (f : Function η) (arguments : List (Value η)) : Run σ η (Value η) :=
  fun s =>
    let r := calls f arguments s
    let result := match r.1 with
      | .value v => .ok v
      | .other shown => .error (.error (.notAValue f.id shown))
      | .error e => .error (.error e)
      | .stackExhausted => .error .stackExhausted
      | .failure message => .error (.error (.failed f.id message))
      | .uncaught => .error .uncaught
    ⟨result, r.2, [.called f arguments]⟩

end Run

end Reckoner
