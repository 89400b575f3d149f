import Reckoner.Proofs.Environment.Resolution
import Reckoner.Proofs.Run.Replies

/-! # Values in a run

The values that come up in a run are those of the tree, those that are bound, numbers, and what
functions return. A property that all of these have is one of every value in the run. Functions get
no references. An error is either one of evaluation itself, or the reply to the last call.
-/
namespace Reckoner
variable {σ η α β : Type}

/-- A property of values that no run leads out of. -/
structure Value.Closed (calls : Calls σ η) (env : Environment η) (good : Value η → Prop) :
    Prop where
  number (x : Float) : good (.number x)
  bound {name : Text} {v : Value η} (h : env.find? name = some v) : good v
  reply {f : Function η} {arguments : List (Value η)} {s : σ} {v : Value η}
    (hf : good (.function f)) (ha : ∀ a ∈ arguments, good a)
    (h : (calls f arguments s).1 = .value v) : good v

/-- A value that functions may get. -/
def Value.Grounded (good : Value η → Prop) (v : Value η) : Prop := v.isReference = false ∧ good v

/-- The stops of evaluation itself. Only a value without a text makes one of them uncaught. -/
def Stop.Own (env : Environment η) (good : Value η → Prop) : Stop → Prop
  | .stackExhausted | .error (.nestingLimit _) | .error (.numbersRequired ..)
  | .error (.notAFunction _) => True
  | .error (.unknownVariable name) => env.find? name = none ∧ good (.reference name)
  | .error (.cyclicReference name) => ∃ other, env.find? other = some (.reference name)
  | .error _ => False
  | .uncaught => ∃ v, good v ∧ v.written? = none

theorem Stop.own_showing {env : Environment η} {good : Value η → Prop}
    {error : Text → ExecutionError} {v : Value η}
    (he : ∀ shown, (Stop.error (error shown)).Own env good) (hv : good v) :
    (Stop.showing error v).Own env good := by
  unfold Stop.showing
  split
  · exact he _
  · next hn => exact ⟨v, hv, hn⟩

/-- What the failures of evaluation itself are about. -/
theorem Stop.Own.about {env : Environment η} {good : Value η → Prop} {stop : Stop}
    (h : stop.Own env good) : (stop = .uncaught ∧ ∃ v, good v ∧ v.written? = none) ∨
      ∃ e, stop.toFailure = .error e ∧ (e.kind = .nestingTooDeep ∨
        (e.kind = .typeMismatch ∧ ∀ f shown, e ≠ .notAValue f shown) ∨
        (∃ name, e = .unknownVariable name ∧ env.find? name = none ∧ good (.reference name)) ∨
        ∃ name other, e = .cyclicReference name ∧ env.find? other = some (.reference name)) := by
  cases stop with
  | stackExhausted => exact .inr ⟨_, rfl, .inl rfl⟩
  | uncaught => exact .inl ⟨rfl, h⟩
  | error e =>
    refine .inr ⟨e, rfl, ?_⟩
    cases e with
    | nestingLimit limit => exact .inl rfl
    | numbersRequired operator found => exact .inr (.inl ⟨rfl, nofun⟩)
    | notAFunction found => exact .inr (.inl ⟨rfl, nofun⟩)
    | unknownVariable name => exact .inr (.inr (.inl ⟨name, rfl, h⟩))
    | cyclicReference name =>
      obtain ⟨other, ho⟩ := h
      exact .inr (.inr (.inr ⟨name, other, rfl, ho⟩))
    | _ => exact h.elim

namespace Run
open Value (Closed Grounded)

/-- Where the value, the calls and the error of an outcome come from. -/
structure Flows (calls : Calls σ η) (env : Environment η) (good : Value η → Prop)
    (property : α → Prop) (outcome : Outcome Stop σ η α) : Prop where
  value : ∀ a, outcome.result = .ok a → property a
  called : ∀ f arguments, .called f arguments ∈ outcome.events →
    good (.function f) ∧ ∀ v ∈ arguments, Grounded good v
  error : ∀ e, outcome.result = .error e → e.Own env good ∨ ∃ before f arguments s,
    outcome.events = before ++ [.called f arguments] ∧
      (calls f arguments s).1.stop? f = some e

def Carries (calls : Calls σ η) (env : Environment η) (good : Value η → Prop)
    (property : α → Prop) (run : Run σ η α) : Prop :=
  ∀ s, Flows calls env good property (run s)

section Carries
variable {calls : Calls σ η} {env : Environment η} {good : Value η → Prop}

theorem Carries.pure {property : α → Prop} {a : α} (h : property a) :
    Carries calls env good property (Pure.pure a) := by
  refine fun s => ⟨fun b hb => ?_, nofun, nofun⟩
  cases hb
  exact h

theorem Carries.stop {property : α → Prop} {e : Stop} (h : e.Own env good) :
    Carries calls env good property (Run.stop e) := by
  refine fun s => ⟨nofun, nofun, fun e' he => ?_⟩
  cases he
  exact .inl h

theorem Carries.bind {property : α → Prop} {final : β → Prop} {run : Run σ η α}
    {next : α → Run σ η β} (h : Carries calls env good property run)
    (hn : ∀ a, property a → Carries calls env good final (next a)) :
    Carries calls env good final (run >>= next) := by
  intro s
  obtain ⟨hv, hc, he⟩ := h s
  rcases hr : run s with ⟨result, t, events⟩
  rw [hr] at hv hc he
  cases result with
  | error e =>
    rw [bind_of_error hr]
    exact ⟨nofun, hc, fun e' h' => he e' (congrArg Except.error (Except.error.inj h'))⟩
  | ok a =>
    obtain ⟨hv', hc', he'⟩ := hn a (hv a rfl) t
    rw [bind_of_ok hr]
    refine ⟨hv', fun f arguments hm => ?_, fun e h' => ?_⟩
    · exact (List.mem_append.mp hm).elim (hc f arguments) (hc' f arguments)
    · refine (he' e h').imp_right fun ⟨before, f, arguments, u, hs, hreply⟩ => ?_
      exact ⟨events ++ before, f, arguments, u, by rw [hs, List.append_assoc], hreply⟩

theorem Carries.within {property : α → Prop} {limits : Limits} {depth : Depth} {run : Run σ η α}
    (h : Carries calls env good property run) :
    Carries calls env good property (Run.within limits depth run) := by
  unfold Run.within
  split
  · exact .stop trivial
  · split
    · exact .stop trivial
    · exact h

theorem Carries.resolve (hg : Closed calls env good) {v : Value η} (h : good v) :
    Carries calls env good (Grounded good) (Run.resolve env v) := by
  have arises : ∀ {w : Value η}, env.Arises v w → good w := by
    rintro w (rfl | ⟨name, hb⟩)
    · exact h
    · exact hg.bound hb
  have hl := env.resolve_leads v
  refine fun s => ⟨fun w hw => ?_, fun f arguments hm => ?_, fun e he => .inl ?_⟩
  · rw [Run.resolve_eq_ok.mp hw] at hl
    exact ⟨hl.ok.1, arises hl.ok.2⟩
  · obtain ⟨name, -, hn⟩ := List.mem_map.mp hm
    cases hn
  · change (env.resolve v).result.mapError Stop.error = _ at he
    cases hr : (env.resolve v).result with
    | ok u =>
      rw [hr] at he
      cases he
    | error e =>
      rw [hr] at he hl
      cases he
      rcases hl.error with ⟨name, rfl, hf, ha⟩ | ⟨name, rfl, ⟨-, hm⟩ | hb⟩
      · exact ⟨hf, arises ha⟩
      · cases hm
      · exact hb

theorem Carries.call (hg : Closed calls env good) {f : Function η} {arguments : List (Value η)}
    (hf : good (.function f)) (ha : ∀ v ∈ arguments, Grounded good v) :
    Carries calls env good good (Run.call calls f arguments) := by
  refine fun s => ⟨fun v hv => ?_, fun g others hm => ?_,
    fun e he => .inr ⟨[], f, arguments, s, rfl, ?_⟩⟩
  · exact hg.reply hf (fun a hm => (ha a hm).2) (Run.reply_of_call hv)
  · cases List.mem_singleton.mp hm
    exact ⟨hf, ha⟩
  · simp only [Run.call] at he
    cases hr : (calls f arguments s).1 <;> rw [hr] at he <;> cases he <;> rfl

theorem Carries.number (hg : Closed calls env good) (label : Text)
    {operand : Run σ η (Value η)} (h : Carries calls env good good operand) :
    Carries calls env good (fun _ => True) (Run.number env label operand) := by
  refine h.bind fun v hv => (Carries.resolve hg hv).bind fun w hw => ?_
  cases w with
  | number x => exact .pure trivial
  | _ => exact .stop (Stop.own_showing (fun _ => trivial) hw.2)

end Carries

end Run

namespace Node
open Value (Closed Grounded)
open Run (Carries)
variable {calls : Calls σ η} {env : Environment η} {limits : Limits} {good : Value η → Prop}

def Holds (good : Value η → Prop) (node : Node η) : Prop :=
  ∀ v span, .value v span ∈ node.preorder → good v

theorem evaluateAll_carries (hg : Closed calls env good) {arguments : List (Node η)} {depth : Depth}
    (h : ∀ a ∈ arguments, Carries calls env good good (evaluate calls env limits depth a)) :
    Carries calls env good (fun vs => ∀ v ∈ vs, Grounded good v)
      (evaluateAll calls env limits depth arguments) := by
  induction arguments with
  | nil => exact .pure nofun
  | cons n ns ih =>
    obtain ⟨hn, hns⟩ := List.forall_mem_cons.mp h
    rw [evaluateAll]
    exact hn.bind fun v hv => (Carries.resolve hg hv).bind fun w hw =>
      (ih hns).bind fun ws hws => .pure (List.forall_mem_cons.mpr ⟨hw, hws⟩)

/-- A property that no run leads out of is kept by evaluation. -/
theorem evaluate_carries (hg : Closed calls env good) (node : Node η) (depth : Depth)
    (h : node.Holds good) : Carries calls env good good (evaluate calls env limits depth node) := by
  induction node generalizing depth with
  | value v span => exact .within (.pure (h v span List.mem_cons_self))
  | binary op left right span ihl ihr =>
    have hl := ihl (depth.below 2) fun v s hm =>
      h v s (List.mem_cons_of_mem _ (List.mem_append_left _ hm))
    have hr := ihr (depth.below 2) fun v s hm =>
      h v s (List.mem_cons_of_mem _ (List.mem_append_right _ hm))
    rw [evaluate]
    exact .within ((Carries.number hg _ hl).bind fun x _ =>
      (Carries.number hg _ hr).bind fun y _ => .pure (hg.number (op.apply x y)))
  | negate operand span ih =>
    have ho := ih (depth.below 2) fun v s hm => h v s (List.mem_cons_of_mem _ hm)
    rw [evaluate]
    exact .within ((Carries.number hg _ ho).bind fun x _ => .pure (hg.number (-x)))
  | call callee arguments span ihc iha =>
    have hc := ihc (depth.below 2) fun v s hm =>
      h v s (List.mem_cons_of_mem _ (List.mem_append_left _ hm))
    have ha : ∀ a ∈ arguments,
        Carries calls env good good (evaluate calls env limits (depth.below 3) a) := fun a ham =>
      iha a ham (depth.below 3) fun v s hm => h v s (List.mem_cons_of_mem _
        (List.mem_append_right _ (mem_preorderAll.mpr ⟨a, ham, hm⟩)))
    rw [evaluate]
    refine .within (hc.bind fun v hv => (Carries.resolve hg hv).bind fun c hgood => ?_)
    cases c with
    | function f => exact (evaluateAll_carries hg ha).bind fun vs hvs => .call hg hgood.2 hvs
    | _ => exact .stop (Stop.own_showing (fun _ => trivial) hgood.2)

theorem ground_carries (hg : Closed calls env good) (node : Node η) (h : node.Holds good) :
    Carries calls env good (Grounded good) (node.ground calls env limits) :=
  (node.evaluate_carries hg 0 h).bind fun _ hv => .resolve hg hv

end Node

end Reckoner
