import Reckoner.Proofs.Run.Replies
import Reckoner.Proofs.Run.Taking

/-! # Invocations

Functions are invoked in the order of the calls in the tree, each at most once and with all of its
arguments. A run that ends in a value has invoked them all; whatever goes wrong first ends the run,
and nothing behind a callee that is no function or a left operand that is no number is invoked.
-/
namespace Reckoner
variable {σ η α : Type}

namespace Step

section Checks
variable {calls : Calls σ η} {env : Environment η} {limits : Limits}

theorem resolve_of_bind {v : Value η} {next : Value η → Run σ η α} {a : α} {t u : σ}
    {events : List (Event η)} (h : (Run.resolve env v >>= next) t = ⟨.ok a, u, events⟩) :
    ∃ w, (env.resolve v).result = .ok w ∧ (next w t).result = .ok a := by
  cases hr : (env.resolve v).result with
  | error e =>
    have hs : Run.resolve env v t = ⟨.error (.error e), t, (env.resolve v).looked.map .looked⟩ := by
      simp only [Run.resolve, hr, Except.mapError]
    rw [Run.bind_of_error hs] at h
    cases h
  | ok w =>
    have hs : Run.resolve env v t = ⟨.ok w, t, (env.resolve v).looked.map .looked⟩ := by
      simp only [Run.resolve, hr, Except.mapError]
    rw [Run.bind_of_ok hs] at h
    exact ⟨w, rfl, congrArg Outcome.result h⟩

theorem function_of_perform {stack final : List (Cell η)} {arguments : List (Node η)} {t u : σ}
    {events : List (Event η)}
    (h : perform calls env limits stack (.callee arguments) t = ⟨.ok final, u, events⟩) :
    ∃ v rest f, stack = .value v :: rest ∧ (env.resolve v).result = .ok (.function f) := by
  cases stack with
  | nil => cases h
  | cons cell rest =>
    cases cell with
    | value v =>
      obtain ⟨w, hw, hn⟩ := resolve_of_bind h
      cases w with
      | function f => exact ⟨v, rest, f, rfl, hw⟩
      | _ => cases hn
    | _ => cases h

theorem number_of_perform {stack final : List (Cell η)} {op : Operator} {right : Node η} {t u : σ}
    {events : List (Event η)}
    (h : perform calls env limits stack (.left op right) t = ⟨.ok final, u, events⟩) :
    ∃ v rest x, stack = .value v :: rest ∧ (env.resolve v).result = .ok (.number x) := by
  cases stack with
  | nil => cases h
  | cons cell rest =>
    cases cell with
    | value v =>
      rw [perform, Run.number, pure_bind, bind_assoc] at h
      obtain ⟨w, hw, hn⟩ := resolve_of_bind h
      cases w with
      | number x => exact ⟨v, rest, x, rfl, hw⟩
      | _ => cases hn
    | _ => cases h

end Checks

end Step

namespace Node
open Step (node? travel perform)

/-- What a run makes of a tree: it takes the steps `done` of the course and not those `left`. Each
invocation is one of a step done, for the next of the calls in their order. All is done if the run
ends in a value; if it ends in an error, the last step done is the first to fail. After the check of
a callee or a left operand, anything is done only if it resolves to a function or a number; if
nothing is, the calls in the arguments or in the right operand are left. -/
structure Invokes (calls : Calls σ η) (env : Environment η) (limits : Limits) (root : Node η)
    (s : σ) (outcome : Outcome Failure σ η (Value η)) (done left : List (Step η)) :
    Prop where
  travels : travel calls env limits [] root.course s =
    ⟨(root.ground calls env limits s).result.map fun v => [.value v], outcome.state,
      outcome.events⟩
  course_eq : root.course = done ++ left
  callNodes_eq : root.callNodes = done.filterMap node? ++ left.filterMap node?
  received : List.Forall₂ Receives (invocations outcome.events) (done.filterMap node?)
  value : ∀ v, outcome.result = .ok v → left = []
  error : ∀ e, outcome.result = .error e → ∃ before step stack t events stop more,
    done = before ++ [step] ∧
    travel calls env limits [] before s = ⟨.ok stack, t, events⟩ ∧
    perform calls env limits stack step t = ⟨.error stop, outcome.state, more⟩ ∧
    outcome.events = events ++ more ∧ e = stop.toFailure
  callee : ∀ before arguments, done = before ++ [.callee arguments] → ∃ callee span rest,
    left.filterMap node? = callNodesAll arguments ++ .call callee arguments span :: rest
  callee_function : ∀ before arguments next after,
    done = before ++ .callee arguments :: next :: after → ∃ v stack t events f,
      travel calls env limits [] before s = ⟨.ok (.value v :: stack), t, events⟩ ∧
      (env.resolve v).result = .ok (.function f)
  operand : ∀ before op right, done = before ++ [.left op right] → ∃ rest,
    left.filterMap node? = right.callNodes ++ rest
  operand_number : ∀ before op right next after,
    done = before ++ .left op right :: next :: after → ∃ v stack t events x,
      travel calls env limits [] before s = ⟨.ok (.value v :: stack), t, events⟩ ∧
      (env.resolve v).result = .ok (.number x)

section Course
variable {root : Node η} {done left before : List (Step η)}

theorem left_of_callee {arguments : List (Node η)} (h : root.course = done ++ left)
    (hd : done = before ++ [.callee arguments]) : ∃ callee span rest,
      left.filterMap node? = callNodesAll arguments ++ .call callee arguments span :: rest := by
  have ho := root.ordered_course
  rw [h, hd, List.append_assoc, List.singleton_append] at ho
  obtain ⟨⟨depth, callee, span, rest, hl⟩, -⟩ := ho.after
  refine ⟨callee, span, rest.filterMap node?, ?_⟩
  rw [hl, List.filterMap_append, stepsAll_node? depth fun a _ => a.steps_node?]
  rfl

theorem left_of_operand {op : Operator} {right : Node η} (h : root.course = done ++ left)
    (hd : done = before ++ [.left op right]) : ∃ rest,
      left.filterMap node? = right.callNodes ++ rest := by
  have ho := root.ordered_course
  rw [h, hd, List.append_assoc, List.singleton_append] at ho
  obtain ⟨⟨depth, rest, hl⟩, -⟩ := ho.after
  refine ⟨rest.filterMap node?, ?_⟩
  rw [hl, List.filterMap_append, steps_node?]
  rfl

end Course

variable {calls : Calls σ η} {env : Environment η} {limits : Limits}

theorem travel_course_eq (root : Node η) (s : σ) : travel calls env limits [] root.course s =
    ⟨(root.ground calls env limits s).result.map fun v => [.value v],
      (root.ground calls env limits s).state, (root.ground calls env limits s).events⟩ := by
  rw [travel_course]
  rcases hg : root.ground calls env limits s with ⟨result, t, events⟩
  cases result with
  | error e => rw [Run.bind_of_error hg]; rfl
  | ok v =>
    rw [Run.bind_of_ok hg]
    exact congrArg (Outcome.mk _ _) (List.append_nil events)

theorem exists_invokes (root : Node η) (s : σ) : ∃ done left,
    root.Invokes calls env limits s
      ⟨(root.ground calls env limits s).result.mapError Stop.toFailure,
        (root.ground calls env limits s).state, (root.ground calls env limits s).events⟩
      done left := by
  obtain ⟨done, left, hsplit, ht⟩ := Step.exists_taken calls env limits [] s root.course
  have hf := root.fits_course
  rw [hsplit] at hf
  have hi := ht.invocations hf
  have hn := root.course_node?
  rw [hsplit, List.filterMap_append] at hn
  rw [travel_course_eq] at ht hi
  refine ⟨done, left, travel_course_eq root s, hsplit, hn.symm, hi, fun v hv => ?_, fun e he => ?_,
    fun _ _ => left_of_callee hsplit, fun before arguments next after hd => ?_,
    fun _ _ _ => left_of_operand hsplit, fun before op right next after hd => ?_⟩
  · rcases hg : root.ground calls env limits s with ⟨result, t, events⟩
    rw [hg] at ht hv
    cases result with
    | error stop => cases hv
    | ok w =>
      cases ht
      rfl
  · rcases hg : root.ground calls env limits s with ⟨result, t, events⟩
    rw [hg] at ht he
    cases result with
    | error stop =>
      cases he
      cases ht with
      | failed h hp => exact ⟨_, _, _, _, _, _, _, rfl, h, hp, rfl, rfl⟩
    | ok w => cases he
  · rw [hd] at ht
    obtain ⟨middle, t, events, hb, final, u, more, hp⟩ := ht.succeeded
    obtain ⟨v, rest, f, rfl, hv⟩ := Step.function_of_perform hp
    exact ⟨v, rest, t, events, f, hb, hv⟩
  · rw [hd] at ht
    obtain ⟨middle, t, events, hb, final, u, more, hp⟩ := ht.succeeded
    obtain ⟨v, rest, x, rfl, hv⟩ := Step.number_of_perform hp
    exact ⟨v, rest, t, events, x, hb, hv⟩

end Node

/-- A program invokes its calls in their order, as far as its run goes, and a reply that is no value
is the end of the run. -/
theorem Program.execute_invokes (calls : Calls σ η) (env : Environment η) (limits : Limits)
    (program : Program η) (s : σ) :
    (∃ done left, program.root.Invokes calls env limits s (program.execute calls env limits s)
      done left) ∧
    ∀ before f arguments later stop,
      (program.execute calls env limits s).events = before ++ .called f arguments :: later →
        (calls f arguments (calls.after s before)).1.stop? f = some stop →
          later = [] ∧ (program.execute calls env limits s).result = .error stop.toFailure := by
  refine ⟨program.root.exists_invokes s, fun before f arguments later stop he hs => ?_⟩
  obtain ⟨hl, hr⟩ := (program.root.ground_heeds s).ends before f arguments later stop he hs
  refine ⟨hl, ?_⟩
  rw [execute, hr]
  rfl

end Reckoner
