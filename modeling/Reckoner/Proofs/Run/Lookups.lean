import Reckoner.Proofs.Environment.Resolution
import Reckoner.Proofs.Run.Related

/-! # Names looked up

A run depends on an environment through the names that it looks up, however it comes to look them
up: as names of the source, through bindings that refer to others, or because a function has
returned a reference. Environments that agree on these names cannot be told apart by the run. An
unbound name is the last that a run looks up, so binding more names can only help a run that fails
for the lack of one of them.
-/
namespace Reckoner
variable {σ η α β : Type}

namespace Run

/-- An environment that agrees on the names looked up leads to the same outcome. -/
def Depends (env env' : Environment η) (run run' : Run σ η α) : Prop :=
  ∀ s, (∀ name, .looked name ∈ (run s).events → env'.find? name = env.find? name) →
    run' s = run s

theorem Depends.resolve (env env' : Environment η) (v : Value η) :
    Depends env env' (resolve env v : Run σ η (Value η)) (resolve env' v) := by
  intro s h
  have ha : env'.resolve v = env.resolve v :=
    Environment.resolve_agree fun name hm => h name (List.mem_map_of_mem hm)
  rw [Run.resolve, Run.resolve, ha]

theorem Depends.bind {env env' : Environment η} {run run' : Run σ η α}
    {next next' : α → Run σ η β} (h : Depends env env' run run')
    (hn : ∀ a, Depends env env' (next a) (next' a)) :
    Depends env env' (run >>= next) (run' >>= next') := by
  intro s ha
  have hs := h s
  rcases hr : run s with ⟨result, t, events⟩
  rw [hr] at hs
  cases result with
  | error e =>
    rw [bind_of_error hr] at ha ⊢
    rw [bind_of_error (hs ha)]
  | ok a =>
    rw [bind_of_ok hr] at ha ⊢
    have hfirst := hs fun name hm => ha name (List.mem_append_left _ hm)
    have hlast := hn a t fun name hm => ha name (List.mem_append_right _ hm)
    rw [bind_of_ok hfirst, hlast]

theorem Depends.relates (calls : Calls σ η) (env env' : Environment η) (limits : Limits) :
    Relates calls env env' limits limits fun _ => Depends env env' where
  pure _ _ _ := rfl
  stop _ _ _ := rfl
  resolve := .resolve env env'
  call _ _ _ _ := rfl
  within depth h := by
    rcases within_cases limits depth with ⟨e, he⟩ | he
    · rw [he, he]
      exact fun _ _ => rfl
    · rwa [he, he]
  bind := .bind

/-- An unbound name that is looked up is what the run complains about. -/
def Misses (env : Environment η) (run : Run σ η α) : Prop :=
  ∀ s name, .looked name ∈ (run s).events → env.find? name = none →
    (run s).result = .error (.error (.unknownVariable name))

theorem Misses.resolve (env : Environment η) (v : Value η) :
    Misses env (resolve env v : Run σ η (Value η)) := by
  intro s name hm hf
  obtain ⟨other, ho, he⟩ := List.mem_map.mp hm
  cases he
  have hr := (env.resolve_leads v).result_of_unbound ho hf
  simp only [Run.resolve, hr, Except.mapError]

theorem Misses.bind {env : Environment η} {run : Run σ η α} {next : α → Run σ η β}
    (h : Misses env run) (hn : ∀ a, Misses env (next a)) : Misses env (run >>= next) := by
  intro s name hm hf
  have hs := fun hm => h s name hm hf
  rcases hr : run s with ⟨result, t, events⟩
  rw [hr] at hs
  cases result with
  | error e =>
    rw [bind_of_error hr] at hm ⊢
    exact congrArg Except.error (Except.error.inj (hs hm))
  | ok a =>
    rw [bind_of_ok hr] at hm ⊢
    rcases List.mem_append.mp hm with hm | hm
    · cases hs hm
    · exact hn a t name hm hf

theorem Misses.lasting (env : Environment η) : Lasting env fun α => @Misses σ η α env where
  pure _ _ _ hm := nomatch hm
  stop _ _ _ hm := nomatch hm
  resolve := .resolve env
  bind := .bind

theorem Misses.call (env : Environment η) (calls : Calls σ η) (f : Function η)
    (arguments : List (Value η)) : Misses env (call calls f arguments) := by
  intro s name hm
  cases List.mem_singleton.mp hm

end Run

namespace Program
variable {calls : Calls σ η} {env env' : Environment η} {limits : Limits} {program : Program η}
  {s : σ}

theorem execute_agree
    (h : ∀ name, .looked name ∈ (program.execute calls env limits s).events →
      env'.find? name = env.find? name) :
    program.execute calls env' limits s = program.execute calls env limits s := by
  have hg := program.root.ground_related (Run.Depends.relates calls env env' limits) s h
  rw [execute, execute, hg]

theorem execute_misses {name : Text}
    (hm : .looked name ∈ (program.execute calls env limits s).events)
    (hf : env.find? name = none) :
    (program.execute calls env limits s).result = .error (.error (.unknownVariable name)) := by
  have hg : Run.Misses env (program.root.ground calls env limits) :=
    program.root.ground_lasting (Run.Misses.lasting env) (Run.Misses.call env calls)
  rw [execute, hg s name hm hf]
  rfl

/-- A run is the same, in its outcome, its calls and the names it looks up, in every environment
that agrees on these names. So an extension is noticed only if it binds the name that the run fails
for, and a name that is not looked up can be bound to anything. -/
theorem execute_depends_on_lookups (calls : Calls σ η) (env : Environment η) (limits : Limits)
    (program : Program η) (s : σ) :
    (∀ env' : Environment η,
      (∀ name, .looked name ∈ (program.execute calls env limits s).events →
        env'.find? name = env.find? name) →
      program.execute calls env' limits s = program.execute calls env limits s) ∧
    (∀ env' : Environment η, (∀ name v, env.find? name = some v → env'.find? name = some v) →
      program.execute calls env' limits s = program.execute calls env limits s ∨
        ∃ name v, env.find? name = none ∧ env'.find? name = some v ∧
          (program.execute calls env limits s).result =
            .error (.error (.unknownVariable name))) ∧
    ∀ name v, .looked name ∉ (program.execute calls env limits s).events →
      program.execute calls (Bindings.insert name v env) limits s =
        program.execute calls env limits s := by
  refine ⟨fun env' => execute_agree, fun env' he => ?_, fun name v hn => ?_⟩
  · by_cases h : ∃ name v, .looked name ∈ (program.execute calls env limits s).events ∧
        env.find? name = none ∧ env'.find? name = some v
    · obtain ⟨name, v, hm, hf, hv⟩ := h
      exact .inr ⟨name, v, hf, hv, execute_misses hm hf⟩
    · refine .inl (execute_agree fun name hm => ?_)
      cases hf : env.find? name with
      | some v => exact he name v hf
      | none =>
        cases hf' : env'.find? name with
        | none => rfl
        | some v => exact absurd ⟨name, v, hm, hf, hf'⟩ h
  · refine execute_agree fun other hm => ?_
    rw [Bindings.find?_insert, if_neg]
    rintro rfl
    exact hn hm

/-- A call looks up its function, the two names of its argument and the name that it returns; the
order of the bindings and a further name make no difference. -/
theorem execute_depends_on_lookups_alias :
    let program : Program Unit :=
      ⟨"f(x)".toList, .call (.value (.reference ['f']) none) [.value (.reference ['x']) none] none⟩
    let calls : Calls Nat Unit := fun _ _ s => (.value (.reference ['z']), s + 1)
    let env : Environment Unit := [(['f'], .function ⟨['g'], .foreign ()⟩),
      (['x'], .reference ['y']), (['y'], .text ['a']), (['z'], .text ['b'])]
    (program.execute calls env (.ofNesting 1) 0).events = [.looked ['f'], .looked ['x'],
      .looked ['y'], .called ⟨['g'], .foreign ()⟩ [.text ['a']], .looked ['z']] ∧
    (program.execute calls ((['w'], .reference ['w']) :: env.reverse) (.ofNesting 1) 0 =
      program.execute calls env (.ofNesting 1) 0) := by
  intro program calls env
  have he : (program.execute calls env (.ofNesting 1) 0).events = [.looked ['f'], .looked ['x'],
    .looked ['y'], .called ⟨['g'], .foreign ()⟩ [.text ['a']], .looked ['z']] := rfl
  refine ⟨he, (execute_depends_on_lookups calls env (.ofNesting 1) program 0).1 _ fun name hm => ?_⟩
  rw [he] at hm
  have hn : name = ['f'] ∨ name = ['x'] ∨ name = ['y'] ∨ name = ['z'] := by simpa using hm
  rcases hn with rfl | rfl | rfl | rfl <;> rfl

end Program

end Reckoner
