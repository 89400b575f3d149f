import Reckoner.Proofs.Environment.Chains
import Reckoner.Proofs.Run.Related
import Reckoner.Proofs.Run.Taking

/-! # Shorter chains

A run sees of an environment what values resolve to, and nothing of the names in between. So names
may be bound right to what their chains end in, if this is a value; a chain that breaks off or goes
round has to stay, because the name that is reported is one further on.
-/
namespace Reckoner
variable {σ η α β : Type}

namespace Environment

/-- The value that the chain from a name ends in, or what the name is bound to if there is none. -/
def shortened (env : Environment η) (name : Text) (bound : Value η) : Value η :=
  match (env.resolve (.reference name)).result with
  | .ok value => value
  | .error _ => bound

/-- Binds every name whose chain ends in a value to this value, and leaves all others. -/
def flat (env : Environment η) : Environment η :=
  env.map fun entry => (entry.1, env.shortened entry.1 entry.2)

variable {env : Environment η} {v w : Value η} {name : Text} {names looked : List Text}
  {result : Except ExecutionError (Value η)}

theorem find?_flat (env : Environment η) (name : Text) :
    env.flat.find? name = (env.find? name).map (env.shortened name) :=
  Bindings.find?_map env.shortened name env

theorem resolve_of_chain (h : env.Chain v names w) (hg : w.isReference = false) :
    (env.resolve v).result = .ok w :=
  (env.resolve_ends v).eq_ok_iff.mpr ⟨hg, names, h⟩

theorem find?_flat_of_chain (h : env.Chain (.reference name) names w) (hg : w.isReference = false) :
    env.flat.find? name = some w := by
  cases h with
  | here => cases hg
  | step hf h =>
    rw [find?_flat, hf, Option.map_some, shortened, resolve_of_chain (.step hf h) hg]

theorem find?_flat_of_open
    (h : ∀ names w, env.Chain (.reference name) names w → w.isReference = true) :
    env.flat.find? name = env.find? name := by
  cases hr : (env.resolve (.reference name)).result with
  | error e =>
    have hs : env.shortened name = id := by
      funext bound
      rw [shortened, hr, id]
    rw [find?_flat, hs, Option.map_id, id]
  | ok w =>
    obtain ⟨hg, names, hc⟩ := (env.resolve_ends (.reference name)).eq_ok_iff.mp hr
    rw [h names w hc] at hg
    cases hg

/-- A chain that breaks off keeps every one of its bindings. -/
example : flat [(['a'], .reference ['b']), (['b'], .text ['t']), (['c'], .reference ['d']),
      (['d'], .reference ['e'])] =
    ([(['a'], .text ['t']), (['b'], .text ['t']), (['c'], .reference ['d']),
      (['d'], .reference ['e'])] : Environment Unit) := rfl

theorem Ends.reaches (h : env.Ends v looked result) (hm : name ∈ looked) :
    ∃ names, env.Chain v names (.reference name) := by
  have along {names : List Text} {w : Value η} (h : env.Chain v names w) (hm : name ∈ names) :
      ∃ names, env.Chain v names (.reference name) := by
    obtain ⟨before, after, rfl⟩ := List.append_of_mem hm
    exact ⟨before, h.from_name.1⟩
  cases h with
  | grounded h => exact along h hm
  | unbound h =>
    rcases List.mem_append.mp hm with hm | hm
    · exact along h hm
    · exact ⟨_, List.mem_singleton.mp hm ▸ h⟩
  | again h hr => exact along (h.append hr) hm

/-- Values resolve as before: by one step if their chain ends in a value, and else along the same
names. -/
theorem resolve_flat (env : Environment η) (v : Value η) :
    (env.flat.resolve v).result = (env.resolve v).result := by
  have hends := env.resolve_ends v
  cases hr : (env.resolve v).result with
  | ok w =>
    obtain ⟨hg, names, h⟩ := hends.eq_ok_iff.mp hr
    cases h with
    | here => exact resolve_of_chain (.here v) hg
    | step hf h =>
      exact resolve_of_chain (.step (find?_flat_of_chain (.step hf h) hg) (.here w)) hg
  | error e =>
    -- a name on the chain that led to a value would lead the whole chain there
    have hopen : ∀ name ∈ (env.resolve v).looked, env.flat.find? name = env.find? name := by
      refine fun name hm => find?_flat_of_open fun names w h => ?_
      obtain ⟨before, hb⟩ := hends.reaches hm
      cases hg : w.isReference with
      | true => rfl
      | false => cases hr.symm.trans (resolve_of_chain (hb.append h) hg)
    rw [resolve_agree hopen, hr]

end Environment

namespace Run

/-- The same result and state, and the same functions called with the same arguments, whatever is
looked up. -/
structure Agrees (outcome outcome' : Outcome Stop σ η α) : Prop where
  result_eq : outcome'.result = outcome.result
  state_eq : outcome'.state = outcome.state
  invocations_eq : invocations outcome'.events = invocations outcome.events

theorem Agrees.refl (outcome : Outcome Stop σ η α) : Agrees outcome outcome := ⟨rfl, rfl, rfl⟩

theorem Agrees.bind {run run' : Run σ η α} {next next' : α → Run σ η β}
    (h : ∀ s, Agrees (run s) (run' s)) (hn : ∀ a s, Agrees (next a s) (next' a s)) (s : σ) :
    Agrees ((run >>= next) s) ((run' >>= next') s) := by
  have hs := h s
  rcases hr : run s with ⟨result, t, events⟩
  rcases hr' : run' s with ⟨result', t', events'⟩
  rw [hr, hr'] at hs
  obtain ⟨rfl, rfl, he⟩ : result' = result ∧ t' = t ∧ invocations events' = invocations events :=
    ⟨hs.result_eq, hs.state_eq, hs.invocations_eq⟩
  cases result' with
  | error e =>
    rw [bind_of_error hr, bind_of_error hr']
    exact ⟨rfl, rfl, he⟩
  | ok a =>
    obtain ⟨hresult, hstate, hevents⟩ := hn a t'
    rw [bind_of_ok hr, bind_of_ok hr']
    refine ⟨hresult, hstate, ?_⟩
    simp [he, hevents]

/-- Environments in which values resolve alike cannot be told apart by the calls of a run. -/
theorem Agrees.relates (calls : Calls σ η) {env env' : Environment η} (limits : Limits)
    (h : ∀ v, (env'.resolve v).result = (env.resolve v).result) :
    Relates calls env env' limits limits fun _ run run' => ∀ s, Agrees (run s) (run' s) where
  pure _ _ := .refl _
  stop _ _ := .refl _
  resolve v s := by
    refine ⟨congrArg (Except.mapError Stop.error) (h v), rfl, ?_⟩
    rw [Silent.resolve env v s, Silent.resolve env' v s]
  call _ _ _ := .refl _
  within depth h := by
    rcases within_cases limits depth with ⟨e, he⟩ | he
    · rw [he, he]
      exact fun s => .refl _
    · rwa [he, he]
  bind := .bind

end Run

namespace Program

/-- Binding names right to the values that their chains end in changes neither the outcome of a run
nor the functions that it calls, their arguments and what they make of their state. -/
theorem execute_flat (calls : Calls σ η) (env : Environment η) (limits : Limits)
    (program : Program η) (s : σ) :
    (∀ name names w, env.Chain (.reference name) names w → w.isReference = false →
      env.flat.find? name = some w) ∧
    (∀ name, (∀ names w, env.Chain (.reference name) names w → w.isReference = true) →
      env.flat.find? name = env.find? name) ∧
    (program.execute calls env.flat limits s).result =
      (program.execute calls env limits s).result ∧
    (program.execute calls env.flat limits s).state =
      (program.execute calls env limits s).state ∧
    invocations (program.execute calls env.flat limits s).events =
      invocations (program.execute calls env limits s).events := by
  have hg := program.root.ground_related (Run.Agrees.relates calls limits env.resolve_flat) s
  exact ⟨fun name names w => Environment.find?_flat_of_chain,
    fun name => Environment.find?_flat_of_open,
    congrArg (Except.mapError Stop.toFailure) hg.result_eq, hg.state_eq, hg.invocations_eq⟩

end Program

end Reckoner
