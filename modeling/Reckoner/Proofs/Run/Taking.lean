import Mathlib.Data.List.Forall2
import Reckoner.Proofs.Run.Course

/-! # Taking the steps

Steps are taken up to the first that fails, if any does. A step invokes a function only for the call
that it stands for, which has all of its arguments on the stack by then. So what is invoked are the
calls of the steps that are taken.
-/
namespace Reckoner
variable {σ η α β : Type}

def Event.invocation? : Event η → Option (Function η × List (Value η))
  | .called f arguments => some (f, arguments)
  | .looked _ => none

def invocations (events : List (Event η)) : List (Function η × List (Value η)) :=
  events.filterMap Event.invocation?

/-- An invocation for a call has an argument for each of its. -/
def Receives (invocation : Function η × List (Value η)) (node : Node η) : Prop :=
  invocation.2.length = node.arity

@[simp] theorem invocations_append (before after : List (Event η)) :
    invocations (before ++ after) = invocations before ++ invocations after :=
  List.filterMap_append

namespace Run

def Silent (run : Run σ η α) : Prop := ∀ s, invocations (run s).events = []

theorem Silent.resolve (env : Environment η) (v : Value η) :
    Silent (Run.resolve env v : Run σ η (Value η)) := by
  intro s
  simp only [Run.resolve, invocations, List.filterMap_map]
  exact List.filterMap_eq_nil_iff.mpr fun _ _ => rfl

theorem Silent.bind {run : Run σ η α} {next : α → Run σ η β} (h : Silent run)
    (hn : ∀ a, Silent (next a)) : Silent (run >>= next) := by
  intro s
  have hs := h s
  rcases hr : run s with ⟨result, s', events⟩
  rw [hr] at hs
  cases result with
  | error e => rw [bind_of_error hr, hs]
  | ok a => simp [bind_of_ok hr, hs, hn a s']

theorem Silent.lasting (env : Environment η) : Lasting env fun α => @Silent σ η α where
  pure _ _ := rfl
  stop _ _ := rfl
  resolve := .resolve env
  bind := .bind

theorem call_bind_events (calls : Calls σ η) (f : Function η) (arguments : List (Value η))
    (build : Value η → α) (s : σ) :
    ((Run.call calls f arguments >>= fun v => Pure.pure (build v)) s).events =
      [.called f arguments] := by
  rcases hr : Run.call calls f arguments s with ⟨result, s', events⟩
  have he : events = [.called f arguments] := (congrArg Outcome.events hr).symm
  cases result with
  | error e => rw [bind_of_error hr, he]
  | ok v =>
    rw [bind_of_ok hr, he]
    rfl

def Ensures (run : Run σ η α) (property : α → Prop) : Prop :=
  ∀ s a, (run s).result = .ok a → property a

theorem Ensures.pure {property : α → Prop} {a : α} (h : property a) :
    Ensures (Pure.pure a : Run σ η α) property := by
  rintro s b hb
  cases hb
  exact h

theorem Ensures.stop {property : α → Prop} (e : Stop) :
    Ensures (Run.stop e : Run σ η α) property := by
  rintro s b hb
  cases hb

theorem Ensures.bind {property : β → Prop} (run : Run σ η α) {next : α → Run σ η β}
    (h : ∀ a, Ensures (next a) property) : Ensures (run >>= next) property := by
  intro s b hb
  rcases hr : run s with ⟨result, s', events⟩
  cases result with
  | error e =>
    rw [bind_of_error hr] at hb
    cases hb
  | ok a =>
    rw [bind_of_ok hr] at hb
    exact h a s' b hb

theorem Ensures.within {limits : Limits} {depth : Depth} {property : α → Prop} {run : Run σ η α}
    (h : Ensures run property) : Ensures (Run.within limits depth run) property := by
  rcases within_cases limits depth with ⟨e, he⟩ | he
  · rw [he]
    exact .stop e
  · rwa [he]

end Run

namespace Step
open Run (Silent Ensures)

section Taking
variable {calls : Calls σ η} {env : Environment η} {limits : Limits}

theorem perform_fits {stack : List (Cell η)} {step : Step η} {more : List (Step η)}
    (h : Fits (step :: more) (stack.map Cell.gathered)) :
    Ensures (perform calls env limits stack step) fun next =>
      Fits more (next.map Cell.gathered) := by
  unfold perform
  split
  · exact Ensures.within (.pure h)
  · exact .pure h
  · exact .bind _ fun x => .pure h
  · exact .bind _ fun y => .pure h
  · exact .bind _ fun x => .pure h
  · refine .bind _ fun c => ?_
    cases c with
    | function f => exact .pure h
    | _ => exact .stop _
  · refine .bind _ fun w => .pure ?_
    rw [List.map_cons, Cell.gathered, List.length_append]
    exact h
  · exact .bind _ fun v => .pure h.2
  · exact .bind _ fun w => .pure h
  · exact .stop _

theorem perform_silent {stack : List (Cell η)} {step : Step η} (h : step.node? = none) :
    Silent (perform calls env limits stack step) := by
  have hS : Run.Lasting env fun α => @Silent σ η α := Silent.lasting env
  unfold perform
  split
  · exact hS.within (hS.pure _)
  · exact hS.pure _
  · exact hS.bind (hS.number (hS.pure _)) fun x => hS.pure _
  · exact hS.bind (hS.number (hS.pure _)) fun y => hS.pure _
  · exact hS.bind (hS.number (hS.pure _)) fun x => hS.pure _
  · refine hS.bind (hS.resolve _) fun c => ?_
    cases c with
    | function f => exact hS.pure _
    | _ => exact hS.stop _
  · exact hS.bind (hS.resolve _) fun w => hS.pure _
  · cases h
  · exact hS.bind (hS.resolve _) fun w => hS.pure _
  · exact hS.stop _

theorem Fits.pending {stack : List (Cell η)} {node : Node η} {more : List (Step η)}
    (h : Fits (.invoke node :: more) (stack.map Cell.gathered)) :
    ∃ f vs rest, stack = .pending f vs :: rest ∧ vs.length = node.arity := by
  cases stack with
  | nil => exact h.elim
  | cons cell rest =>
    cases cell with
    | pending f vs => exact ⟨f, vs, rest, rfl, h.1⟩
    | _ => exact h.elim

/-- The step of a call invokes one function, with the arguments that the call has. -/
theorem perform_invocations {stack : List (Cell η)} {step : Step η} {more : List (Step η)}
    (h : Fits (step :: more) (stack.map Cell.gathered)) (s : σ) :
    List.Forall₂ Receives (invocations (perform calls env limits stack step s).events)
      step.node?.toList := by
  cases step with
  | invoke node =>
    obtain ⟨f, vs, rest, rfl, hn⟩ := h.pending
    have hr : Receives (f, vs) node := hn
    rw [perform, Run.call_bind_events]
    exact .cons hr .nil
  | _ =>
    rw [perform_silent rfl s]
    exact .nil

theorem filterMap_node?_cons (step : Step η) (steps : List (Step η)) :
    (step :: steps).filterMap node? = step.node?.toList ++ steps.filterMap node? := by
  rw [List.filterMap_cons]
  cases step.node? <;> rfl

/-- Taking steps that the stack fits makes their invocations and leaves what the rest needs. -/
theorem travel_invocations {stack next : List (Cell η)} {before left : List (Step η)} {s t : σ}
    {events : List (Event η)} (h : Fits (before ++ left) (stack.map Cell.gathered))
    (ht : travel calls env limits stack before s = ⟨.ok next, t, events⟩) :
    List.Forall₂ Receives (invocations events) (before.filterMap node?) ∧
      Fits left (next.map Cell.gathered) := by
  induction before generalizing stack s events with
  | nil =>
    cases ht
    exact ⟨.nil, h⟩
  | cons step before ih =>
    have hi : List.Forall₂ Receives
        (invocations (perform calls env limits stack step s).events) step.node?.toList :=
      perform_invocations h s
    have hf : ∀ middle, (perform calls env limits stack step s).result = .ok middle →
        Fits (before ++ left) (middle.map Cell.gathered) := perform_fits h s
    rw [travel_cons] at ht
    rcases hp : perform calls env limits stack step s with ⟨result, u, first⟩
    rw [hp] at hi hf
    cases result with
    | error e =>
      rw [Run.bind_of_error hp] at ht
      cases ht
    | ok middle =>
      rw [Run.bind_of_ok hp] at ht
      rcases hm : travel calls env limits middle before u with ⟨result, v, more⟩
      rw [hm] at ht
      cases ht
      obtain ⟨hr, hl⟩ := ih (hf middle rfl) hm
      refine ⟨?_, hl⟩
      rw [invocations_append, filterMap_node?_cons]
      exact List.rel_append hi hr

/-- How far steps are taken: all of them, or up to the first that fails. -/
inductive Taken (calls : Calls σ η) (env : Environment η) (limits : Limits)
    (stack : List (Cell η)) (s : σ) :
    List (Step η) → List (Step η) → Outcome Stop σ η (List (Cell η)) → Prop
  | all {steps : List (Step η)} {final : List (Cell η)} {t : σ} {events : List (Event η)}
      (h : travel calls env limits stack steps s = ⟨.ok final, t, events⟩) :
      Taken calls env limits stack s steps [] ⟨.ok final, t, events⟩
  | failed {before left : List (Step η)} {step : Step η} {next : List (Cell η)} {t u : σ}
      {events more : List (Event η)} {e : Stop}
      (h : travel calls env limits stack before s = ⟨.ok next, t, events⟩)
      (hf : perform calls env limits next step t = ⟨.error e, u, more⟩) :
      Taken calls env limits stack s (before ++ [step]) left ⟨.error e, u, events ++ more⟩

variable (calls env limits) in
theorem exists_taken (stack : List (Cell η)) (s : σ) (steps : List (Step η)) :
    ∃ done left, steps = done ++ left ∧
      Taken calls env limits stack s done left (travel calls env limits stack steps s) := by
  induction steps generalizing stack s with
  | nil => exact ⟨[], [], rfl, .all rfl⟩
  | cons step steps ih =>
    rw [travel_cons]
    rcases hp : perform calls env limits stack step s with ⟨result, t, events⟩
    cases result with
    | error e =>
      rw [Run.bind_of_error hp]
      have hn : travel calls env limits stack [] s = ⟨.ok stack, s, []⟩ := rfl
      exact ⟨[step], steps, rfl, .failed hn hp⟩
    | ok next =>
      have go {before : List (Step η)} {outcome : Outcome Stop σ η (List (Cell η))}
          (h : travel calls env limits next before t = outcome) :
          travel calls env limits stack (step :: before) s =
            ⟨outcome.result, outcome.state, events ++ outcome.events⟩ := by
        rw [travel_cons, Run.bind_of_ok hp, h]
      obtain ⟨done, left, rfl, ht⟩ := ih next t
      rw [Run.bind_of_ok hp]
      refine ⟨step :: done, left, rfl, ?_⟩
      generalize travel calls env limits next (done ++ left) t = outcome at ht
      cases ht with
      | all h => exact .all (go h)
      | @failed before left step' next' t' u events' more e h hf =>
        rw [← List.cons_append, ← List.append_assoc]
        exact .failed (go h) hf

theorem Taken.invocations {stack : List (Cell η)} {s : σ} {done left : List (Step η)}
    {outcome : Outcome Stop σ η (List (Cell η))}
    (h : Taken calls env limits stack s done left outcome)
    (hf : Fits (done ++ left) (stack.map Cell.gathered)) :
    List.Forall₂ Receives (invocations outcome.events) (done.filterMap node?) := by
  cases h with
  | all h => exact (travel_invocations hf h).1
  | @failed before left step next t u events more e h hs =>
    rw [List.append_assoc, List.singleton_append] at hf
    obtain ⟨hr, hl⟩ := travel_invocations hf h
    have hi : List.Forall₂ Receives
        (Reckoner.invocations (perform calls env limits next step t).events) step.node?.toList :=
      perform_invocations hl t
    rw [hs] at hi
    rw [invocations_append, List.filterMap_append, filterMap_node?_cons, List.filterMap_nil,
      List.append_nil]
    exact List.rel_append hr hi

theorem exists_ok_of_append {stack final : List (Cell η)} {before after : List (Step η)} {s t : σ}
    {events : List (Event η)}
    (h : travel calls env limits stack (before ++ after) s = ⟨.ok final, t, events⟩) :
    ∃ next u first, travel calls env limits stack before s = ⟨.ok next, u, first⟩ := by
  rw [travel_append] at h
  rcases hb : travel calls env limits stack before s with ⟨result, u, first⟩
  cases result with
  | error e =>
    rw [Run.bind_of_error hb] at h
    cases h
  | ok next => exact ⟨next, u, first, rfl⟩

theorem Taken.succeeded {stack : List (Cell η)} {s : σ} {before after left : List (Step η)}
    {step next : Step η} {outcome : Outcome Stop σ η (List (Cell η))}
    (h : Taken calls env limits stack s (before ++ step :: next :: after) left outcome) :
    ∃ middle t events, travel calls env limits stack before s = ⟨.ok middle, t, events⟩ ∧
      ∃ final u more, perform calls env limits middle step t = ⟨.ok final, u, more⟩ := by
  have hok : ∃ final t events,
      travel calls env limits stack (before ++ [step]) s = ⟨.ok final, t, events⟩ := by
    rw [List.append_cons] at h
    generalize hd : before ++ [step] ++ next :: after = done at h
    cases h with
    | all h => exact exists_ok_of_append (hd ▸ h)
    | @failed front left last _ _ _ _ _ _ h hf =>
      rw [← List.dropLast_append_getLast (List.cons_ne_nil next after), ← List.append_assoc] at hd
      obtain ⟨rfl, -⟩ := List.append_inj' hd rfl
      exact exists_ok_of_append h
  obtain ⟨final, t, events, h⟩ := hok
  obtain ⟨middle, u, first, hb⟩ := exists_ok_of_append h
  refine ⟨middle, u, first, hb, ?_⟩
  rw [travel_append, Run.bind_of_ok hb, travel_cons] at h
  rcases hp : perform calls env limits middle step u with ⟨result, v, more⟩
  cases result with
  | error e =>
    rw [Run.bind_of_error hp] at h
    cases h
  | ok last => exact ⟨last, v, more, rfl⟩

end Taking

end Step

end Reckoner
