import Reckoner.Proofs.Run.Sequence

/-! # What evaluation depends on

Evaluation does not look at spans. When the replies of all functions depend on their arguments
alone, it does not look at the state either: the result is the same from any state.
-/
namespace Reckoner
variable {σ η α β : Type}

/-- Replies depend on the arguments alone. -/
def Calls.Pure (calls : Calls σ η) : Prop :=
  ∀ f arguments s t, (calls f arguments s).1 = (calls f arguments t).1

namespace Run

def Same (run run' : Run σ η α) : Prop := ∀ s t, (run s).result = (run' t).result

theorem Same.bind {run run' : Run σ η α} {next next' : α → Run σ η β} (h : Same run run')
    (hn : ∀ a s, (run s).result = .ok a → Same (next a) (next' a)) :
    Same (run >>= next) (run' >>= next') := by
  intro s t
  have hst := h s t
  rcases hs : run s with ⟨result, s', events⟩
  rcases ht : run' t with ⟨result', t', events'⟩
  rw [hs, ht] at hst
  change result = result' at hst
  subst hst
  cases result with
  | error e => rw [bind_of_error hs, bind_of_error ht]
  | ok a =>
    rw [bind_of_ok hs, bind_of_ok ht]
    exact hn a s (congrArg Outcome.result hs) s' t'

def Steady (run : Run σ η α) : Prop := ∀ s t, (run s).result = (run t).result

theorem Steady.bind {run : Run σ η α} {next : α → Run σ η β} (h : Steady run)
    (hn : ∀ a, Steady (next a)) : Steady (run >>= next) := Same.bind h fun a _ _ => hn a

theorem Steady.lasting (env : Environment η) : Lasting env fun α => @Steady σ η α where
  pure _ _ _ := rfl
  stop _ _ _ := rfl
  resolve _ _ _ := rfl
  bind := Steady.bind

theorem Steady.call {calls : Calls σ η} (h : calls.Pure) (f : Function η)
    (arguments : List (Value η)) : Steady (Run.call calls f arguments) := by
  intro s t
  simp only [Run.call, h f arguments s t]

end Run

namespace Node
variable {calls : Calls σ η} {env : Environment η} {limits : Limits}

theorem evaluateAll_bare {arguments : List (Node η)} (h : ∀ a ∈ arguments, ∀ depth,
      evaluate calls env limits depth a.bare = evaluate calls env limits depth a) (depth : Depth) :
    evaluateAll calls env limits depth (bareAll arguments) =
      evaluateAll calls env limits depth arguments := by
  induction arguments with
  | nil => rfl
  | cons n ns ih =>
    obtain ⟨hn, hns⟩ := List.forall_mem_cons.mp h
    rw [bareAll, evaluateAll, evaluateAll, hn depth, ih hns]

theorem evaluate_bare (node : Node η) (depth : Depth) :
    evaluate calls env limits depth node.bare = evaluate calls env limits depth node := by
  induction node generalizing depth with
  | value v span => rfl
  | binary op left right span ihl ihr => rw [bare, evaluate, evaluate, ihl, ihr]
  | negate operand span ih => rw [bare, evaluate, evaluate, ih]
  | call callee arguments span ihc iha =>
    rw [bare, evaluate, evaluate, ihc, evaluateAll_bare iha]

theorem ground_bare (node : Node η) :
    node.bare.ground calls env limits = node.ground calls env limits := by
  rw [ground, ground, evaluate_bare]

theorem ground_moved (distance : Nat) (node : Node η) :
    (node.moved distance).ground calls env limits = node.ground calls env limits := by
  rw [← ground_bare, bare_moved, ground_bare]

/-- With pure functions the result does not depend on the state. -/
theorem ground_steady (hp : calls.Pure) (node : Node η) :
    (node.ground calls env limits).Steady :=
  node.ground_lasting (Run.Steady.lasting env) (Run.Steady.call hp)

end Node

end Reckoner
