import Reckoner.Proofs.Run.Sequence

/-! # Replies

The state of the functions is what their calls have made of it, in the order of the trace. A call
that is answered with anything but a value is the last event of its run, and says how the run ends.
-/
namespace Reckoner
variable {σ η α β : Type}

/-- How a run ends that gets this reply from a function, unless the reply is a value. -/
def Reply.stop? (f : Function η) : Reply η → Option Stop
  | .value _ => none
  | .other shown => some (.error (.notAValue f.id shown))
  | .error e => some (.error e)
  | .stackExhausted => some .stackExhausted
  | .failure message => some (.error (.failed f.id message))
  | .uncaught => some .uncaught

def Calls.after (calls : Calls σ η) : σ → List (Event η) → σ
  | s, [] => s
  | s, .looked _ :: events => calls.after s events
  | s, .called f arguments :: events => calls.after (calls f arguments s).2 events

theorem Calls.after_append (calls : Calls σ η) (s : σ) (before later : List (Event η)) :
    calls.after s (before ++ later) = calls.after (calls.after s before) later := by
  induction before generalizing s with
  | nil => rfl
  | cons event before ih => cases event <;> exact ih _

namespace Run
variable {calls : Calls σ η}

/-- An outcome that accounts for the replies of all calls in its trace. -/
structure Heeded (calls : Calls σ η) (s : σ) (outcome : Outcome Stop σ η α) : Prop where
  state_eq : outcome.state = calls.after s outcome.events
  ends : ∀ before f arguments later e,
    outcome.events = before ++ .called f arguments :: later →
      (calls f arguments (calls.after s before)).1.stop? f = some e →
        later = [] ∧ outcome.result = .error e

def Heeds (calls : Calls σ η) (run : Run σ η α) : Prop := ∀ s, Heeded calls s (run s)

theorem Heeds.pure (a : α) : Heeds calls (Pure.pure a : Run σ η α) := by
  refine fun s => ⟨rfl, fun before f arguments later e h => ?_⟩
  exact absurd h (by simp [Pure.pure, Run.pure])

theorem Heeds.stop (e : Stop) : Heeds calls (Run.stop e : Run σ η α) := by
  refine fun s => ⟨rfl, fun before f arguments later e h => ?_⟩
  exact absurd h (by simp [Run.stop])

theorem Heeds.resolve (env : Environment η) (v : Value η) :
    Heeds calls (Run.resolve env v : Run σ η (Value η)) := by
  intro s
  constructor
  · change s = calls.after s ((env.resolve v).looked.map .looked)
    induction (env.resolve v).looked with
    | nil => rfl
    | cons name names ih => exact ih
  · intro before f arguments later e h
    have hm : Event.called f arguments ∈ (env.resolve v).looked.map Event.looked := by
      change (env.resolve v).looked.map Event.looked = _ at h
      rw [h]
      simp
    obtain ⟨name, -, hn⟩ := List.mem_map.mp hm
    cases hn

theorem Heeds.call (f : Function η) (arguments : List (Value η)) :
    Heeds calls (Run.call calls f arguments) := by
  refine fun s => ⟨rfl, fun before g others later e h hs => ?_⟩
  obtain ⟨rfl, h⟩ | ⟨c, h, h'⟩ := List.cons_eq_append_iff.mp h
  · obtain ⟨hc, rfl⟩ := List.cons.inj h
    cases hc
    refine ⟨rfl, ?_⟩
    change (calls f arguments s).1.stop? f = some e at hs
    simp only [Run.call]
    cases hr : (calls f arguments s).1 <;> rw [hr] at hs <;> cases hs <;> rfl
  · exact absurd h' (by simp)

theorem Heeds.bind {run : Run σ η α} {next : α → Run σ η β} (h : Heeds calls run)
    (hn : ∀ a, Heeds calls (next a)) : Heeds calls (run >>= next) := by
  intro s
  have hs := h s
  rcases hr : run s with ⟨result, t, events⟩
  rw [hr] at hs
  obtain ⟨hstate, hends⟩ := hs
  change t = calls.after s events at hstate
  subst hstate
  cases result with
  | error e =>
    rw [bind_of_error hr]
    refine ⟨rfl, fun before f arguments later stop he hs => ?_⟩
    obtain ⟨hl, hstop⟩ := hends before f arguments later stop he hs
    cases hstop
    exact ⟨hl, rfl⟩
  | ok a =>
    rw [bind_of_ok hr]
    obtain ⟨hstate, hnext⟩ := hn a (calls.after s events)
    refine ⟨by rw [hstate, calls.after_append], fun before f arguments later stop he hs => ?_⟩
    rcases List.append_eq_append_iff.mp he with ⟨first, rfl, hf⟩ | ⟨first, rfl, hf⟩
    · rw [calls.after_append] at hs
      exact hnext first f arguments later stop hf hs
    · cases first with
      | nil =>
        rw [List.append_nil] at hnext hf ⊢
        exact hnext [] f arguments later stop hf.symm hs
      | cons event first =>
        obtain ⟨rfl, -⟩ := List.cons.inj hf
        -- a call of the first part that ended the run would have ended that part
        obtain ⟨-, hstop⟩ := hends before f arguments first stop rfl hs
        cases hstop

theorem Heeds.lasting (calls : Calls σ η) (env : Environment η) :
    Lasting env fun _ => Heeds calls where
  pure := .pure
  stop := .stop
  resolve := .resolve env
  bind := .bind

end Run

/-- The first reply that is no value ends the run. -/
theorem Node.ground_heeds {calls : Calls σ η} {env : Environment η} {limits : Limits}
    (node : Node η) : Run.Heeds calls (node.ground calls env limits) :=
  node.ground_lasting (Run.Heeds.lasting calls env) Run.Heeds.call

end Reckoner
