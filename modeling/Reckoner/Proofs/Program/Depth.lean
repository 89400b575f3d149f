import Reckoner.Proofs.Environment.Resolution
import Reckoner.Proofs.Node.Depth
import Reckoner.Proofs.Program.Compile
import Reckoner.Proofs.Run.Replies

/-! # One limit for both recursions

A program that compiles is evaluated without exceeding the limit it was compiled with, whatever the
functions do to the state and whatever they return. If a run still ends with this error, a function
has reported it, in the last call of the run.
-/
namespace Reckoner
variable {σ η α β : Type}

theorem Environment.Leads.within {env : Environment η} {seen looked : List Text} {v : Value η}
    {result : Except ExecutionError (Value η)} (h : Leads env seen v looked result) (limit : Nat) :
    result ≠ .error (.nestingLimit limit) := by
  rintro rfl
  rcases h.error with ⟨name, he, -⟩ | ⟨name, he, -⟩ <;> cases he

namespace Run
variable {calls : Calls σ η}

/-- An outcome that exceeds a limit only if a function said so, in the last event. -/
def Blames (calls : Calls σ η) (s : σ) (outcome : Outcome Stop σ η α) : Prop :=
  ∀ limit, outcome.result = .error (.error (.nestingLimit limit)) →
    ∃ before f arguments, outcome.events = before ++ [.called f arguments] ∧
      (calls f arguments (calls.after s before)).1 = .error (.nestingLimit limit)

/-- A run that does not itself exceed a limit. -/
structure Shallow (calls : Calls σ η) (run : Run σ η α) : Prop where
  heeds : Heeds calls run
  blames : ∀ s, Blames calls s (run s)

theorem Shallow.pure (a : α) : Shallow calls (Pure.pure a : Run σ η α) :=
  ⟨.pure a, fun _ _ h => nomatch h⟩

theorem Shallow.fail {e : ExecutionError} (h : ∀ limit, e ≠ .nestingLimit limit) :
    Shallow calls (Run.fail e : Run σ η α) := by
  refine ⟨.stop _, fun s limit hr => absurd ?_ (h limit)⟩
  injection hr with hr
  injection hr

theorem Shallow.exhausted : Shallow calls (Run.stop .stackExhausted : Run σ η α) :=
  ⟨.stop _, fun _ _ h => nomatch h⟩

theorem Shallow.showing {error : Text → ExecutionError} (v : Value η)
    (h : ∀ shown limit, error shown ≠ .nestingLimit limit) :
    Shallow calls (Run.stop (.showing error v) : Run σ η α) := by
  unfold Stop.showing
  split
  · exact .fail (h _)
  · exact ⟨.stop _, fun _ _ h => nomatch h⟩

theorem Shallow.resolve (env : Environment η) (v : Value η) :
    Shallow calls (Run.resolve env v : Run σ η (Value η)) := by
  refine ⟨.resolve env v, fun s limit h => ?_⟩
  change (env.resolve v).result.mapError Stop.error = _ at h
  have hn := (env.resolve_leads v).within limit
  cases hr : (env.resolve v).result with
  | ok w =>
    rw [hr] at h
    cases h
  | error e =>
    rw [hr] at h hn
    injection h with h
    injection h with h
    exact absurd (congrArg Except.error h) hn

theorem Shallow.call (f : Function η) (arguments : List (Value η)) :
    Shallow calls (Run.call calls f arguments) := by
  refine ⟨.call f arguments, fun s limit h => ⟨[], f, arguments, rfl, ?_⟩⟩
  simp only [Run.call] at h
  change (calls f arguments s).1 = _
  cases hr : (calls f arguments s).1 <;> rw [hr] at h <;> cases h
  rfl

theorem Shallow.bind {run : Run σ η α} {next : α → Run σ η β} (h : Shallow calls run)
    (hn : ∀ a, Shallow calls (next a)) : Shallow calls (run >>= next) := by
  refine ⟨h.heeds.bind fun a => (hn a).heeds, fun s limit hs => ?_⟩
  have hstate := (h.heeds s).state_eq
  have hblames := h.blames s
  rcases hr : run s with ⟨result, t, events⟩
  rw [hr] at hstate hblames
  cases result with
  | error e =>
    rw [bind_of_error hr] at hs ⊢
    injection hs with hs
    exact hblames limit (congrArg Except.error hs)
  | ok a =>
    rw [bind_of_ok hr] at hs ⊢
    obtain ⟨before, f, arguments, he, hc⟩ := (hn a).blames t limit hs
    change t = calls.after s events at hstate
    refine ⟨events ++ before, f, arguments, ?_, ?_⟩
    · change events ++ (next a t).events = _
      rw [he, List.append_assoc]
    · rw [calls.after_append, ← hstate]
      exact hc

theorem Shallow.within {limits : Limits} {depth : Depth} {run : Run σ η α}
    (hd : depth.levels ≤ limits.nesting) (h : Shallow calls run) :
    Shallow calls (Run.within limits depth run) := by
  rw [Run.within, if_neg (Nat.not_lt.mpr hd)]
  split
  · exact .exhausted
  · exact h

theorem Shallow.number (env : Environment η) (label : Text) {operand : Run σ η (Value η)}
    (h : Shallow calls operand) : Shallow calls (Run.number env label operand) := by
  refine h.bind fun v => (Shallow.resolve env v).bind fun w => ?_
  cases w with
  | number x => exact .pure x
  | _ => exact .showing _ nofun

end Run

namespace Node
open Run (Shallow)
variable {calls : Calls σ η} {env : Environment η} {limits : Limits}

theorem evaluateAll_shallow {depth : Depth} {arguments : List (Node η)}
    (h : ∀ a ∈ arguments, Shallow calls (evaluate calls env limits depth a)) :
    Shallow calls (evaluateAll calls env limits depth arguments) := by
  induction arguments with
  | nil => exact .pure []
  | cons n ns ih =>
    obtain ⟨hn, hns⟩ := List.forall_mem_cons.mp h
    rw [evaluateAll]
    exact hn.bind fun v => (Shallow.resolve env v).bind fun w =>
      (ih hns).bind fun ws => .pure (w :: ws)

theorem evaluate_shallow (node : Node η) (depth : Depth)
    (h : ∀ a ∈ node.placed depth.levels, a.1 ≤ limits.nesting) :
    Shallow calls (evaluate calls env limits depth node) := by
  induction node generalizing depth with
  | value v span => exact .within (h _ List.mem_cons_self) (.pure v)
  | binary op left right span ihl ihr =>
    rw [placed, List.forall_mem_cons, List.forall_mem_append] at h
    obtain ⟨hd, hl, hr⟩ := h
    rw [evaluate]
    refine .within hd ?_
    exact (Shallow.number env _ (ihl _ hl)).bind fun x =>
      (Shallow.number env _ (ihr _ hr)).bind fun y => .pure (Value.number (op.apply x y))
  | negate operand span ih =>
    rw [placed, List.forall_mem_cons] at h
    obtain ⟨hd, ho⟩ := h
    rw [evaluate]
    refine .within hd ?_
    exact (Shallow.number env _ (ih _ ho)).bind fun x => .pure (Value.number (-x))
  | call callee arguments span ihc iha =>
    rw [placed, List.forall_mem_cons, List.forall_mem_append, placedAll_eq_flatMap] at h
    obtain ⟨hd, hc, ha⟩ := h
    have hall : Shallow calls (evaluateAll calls env limits (depth.below 3) arguments) :=
      evaluateAll_shallow fun a ham =>
        iha a ham _ fun b hb => ha b (List.mem_flatMap.mpr ⟨a, ham, hb⟩)
    rw [evaluate]
    refine .within hd ((ihc _ hc).bind fun v => (Shallow.resolve env v).bind fun c => ?_)
    cases c with
    | function f => exact hall.bind fun vs => .call f vs
    | _ =>
      refine .showing _ fun shown limit he => ?_
      cases he

end Node

namespace Program

theorem compile_read {limits : Limits} {source : Source} {program : Program η}
    (h : compile limits source = .ok program) : ∃ phrase,
      Phrase.read program.source = .ok phrase ∧
        Node.lower limits program.source 0 phrase = .ok program.root := by
  unfold compile at h
  split at h
  · cases h
  · unfold ofText at h
    split at h
    · cases h
    · next phrase hp =>
      split at h
      · next root hr =>
        cases h
        exact ⟨phrase, hp, hr⟩
      · cases h
      · cases h

theorem compile_height {limits : Limits} {source : Source} {program : Program η}
    (h : compile limits source = .ok program) : program.root.height ≤ limits.nesting := by
  obtain ⟨phrase, -, hl⟩ := compile_read h
  have hc := Node.lower_comes phrase (Nat.le_refl 0) hl
  have hle := Node.height_le_of_placed (Node.Comes.allowed_all hc)
  rw [Nat.zero_add] at hle
  exact hle

/-- In a program that compiles no node is deeper than the phrase it came from, which the limit
allowed for. So evaluation under the same limit does not exceed it in any environment, however much
room the interpreter has: only a function that is called can end the run with this error. -/
theorem depths_agree {limits : Limits} {source : Source} {program : Program η}
    (h : compile limits source = .ok program) :
    (∃ phrase, Phrase.read program.source = .ok phrase ∧
      List.Forall₂ (Node.Comes limits program.source) (program.root.placed 0)
        (phrase.origins 0)) ∧
    ∀ running : Limits, running.nesting = limits.nesting →
      ∀ {σ : Type} (calls : Calls σ η) (env : Environment η) (s : σ) (limit : Nat),
        (program.execute calls env running s).result = .error (.error (.nestingLimit limit)) →
          ∃ before f arguments,
            (program.execute calls env running s).events = before ++ [.called f arguments] ∧
            (calls f arguments (calls.after s before)).1 = .error (.nestingLimit limit) := by
  obtain ⟨phrase, hp, hl⟩ := compile_read h
  have hc := Node.lower_comes phrase (Nat.le_refl 0) hl
  refine ⟨⟨phrase, hp, hc⟩, fun running hn σ calls env s limit hr => ?_⟩
  have hd : ∀ a ∈ program.root.placed 0, a.1 ≤ running.nesting := by
    rw [hn]
    exact Node.Comes.allowed_all hc
  have hs : Run.Shallow calls (program.root.ground calls env running) :=
    (program.root.evaluate_shallow 0 hd).bind fun v => .resolve env v
  refine hs.blames s limit ?_
  change (program.root.ground calls env running s).result.mapError Stop.toFailure = _ at hr
  generalize (program.root.ground calls env running s).result = result at hr ⊢
  cases result with
  | ok v => cases hr
  | error stop =>
    cases stop with
    | error e =>
      cases hr
      rfl
    | stackExhausted | uncaught => cases hr

/-- A limit of two allows for the callee in its parentheses. When the function reports an excess of
its own, the run ends with its call. -/
theorem depths_agree_reported :
    ∃ program : Program Unit, compile (.ofNesting 2) (.ofText "(f)()".toList) = .ok program ∧
      (program.execute (fun _ _ s => (.error (.nestingLimit 7), s + 1))
        [(['f'], .function ⟨['f'], .foreign ()⟩)] (.ofNesting 2) 0).result =
          .error (.error (.nestingLimit 7)) ∧
      ∃ before f arguments,
        (program.execute (fun _ _ s => (.error (.nestingLimit 7), s + 1))
          [(['f'], .function ⟨['f'], .foreign ()⟩)] (.ofNesting 2) 0).events =
            before ++ [.called f arguments] := by
  have h : compile (.ofNesting 2) (.ofText "(f)()".toList) = .ok (⟨"(f)()".toList,
      .call (.value (.reference ['f']) (some ⟨0, 3⟩)) [] (some ⟨0, 5⟩)⟩ : Program Unit) := rfl
  obtain ⟨before, f, arguments, he, -⟩ := (depths_agree h).2 (.ofNesting 2) rfl
    (fun _ _ s => (.error (.nestingLimit 7), s + 1)) [(['f'], .function ⟨['f'], .foreign ()⟩)] 0 7
    rfl
  exact ⟨_, h, rfl, before, f, arguments, he⟩

end Program

end Reckoner
