import Reckoner.Proofs.Run.Ample
import Reckoner.Proofs.Run.Flow

/-! # What is consumed

Evaluation hands on references as they are, from leaves and from the replies of functions. Whoever
needs a value resolves it first: an operator its operands, a call its callee and its arguments, a
run its result. So nothing that is consumed is a reference, wherever the reference came from.
-/
namespace Reckoner
variable {σ η α β : Type}

theorem Environment.isReference_of_resolve {env : Environment η} {v w : Value η}
    (h : (env.resolve v).result = .ok w) : w.isReference = false := by
  have hl := env.resolve_leads v
  rw [h] at hl
  exact hl.ok.1

namespace Run

/-- Of two runs that end well one after another, each does, and their traces add up. -/
theorem exists_eq_of_bind {run : Run σ η α} {next : α → Run σ η β} {s t : σ} {b : β}
    {events : List (Event η)} (h : (run >>= next) s = ⟨.ok b, t, events⟩) :
    ∃ a u first more, run s = ⟨.ok a, u, first⟩ ∧ next a u = ⟨.ok b, t, more⟩ ∧
      events = first ++ more := by
  rcases hr : run s with ⟨result, u, first⟩
  cases result with
  | error e =>
    rw [bind_of_error hr] at h
    cases h
  | ok a =>
    rw [bind_of_ok hr] at h
    rcases hn : next a u with ⟨result, v, more⟩
    rw [hn] at h
    cases h
    exact ⟨a, u, first, more, rfl, hn, rfl⟩

theorem eq_of_within {limits : Limits} {depth : Depth} {run : Run σ η α} {s t : σ} {a : α}
    {events : List (Event η)} (h : within limits depth run s = ⟨.ok a, t, events⟩) :
    run s = ⟨.ok a, t, events⟩ := by
  rcases within_cases limits depth with ⟨e, he⟩ | he
  · rw [he] at h
    cases h
  · rwa [he] at h

end Run

namespace Node

/-- A node evaluates at a depth, from one state to another, to a value that resolves to the given
one, and leaves a trace. -/
inductive Grounds (calls : Calls σ η) (env : Environment η) (limits : Limits) (depth : Depth)
    (node : Node η) (s : σ) : Value η → σ → List (Event η) → Prop
  | resolved {v w : Value η} {t : σ} {events : List (Event η)}
      (he : evaluate calls env limits depth node s = ⟨.ok v, t, events⟩)
      (hr : (env.resolve v).result = .ok w) :
      Grounds calls env limits depth node s w t (events ++ (env.resolve v).looked.map .looked)

inductive GroundsAll (calls : Calls σ η) (env : Environment η) (limits : Limits) (depth : Depth) :
    List (Node η) → σ → List (Value η) → σ → List (Event η) → Prop
  | nil {s : σ} : GroundsAll calls env limits depth [] s [] s []
  | cons {node : Node η} {nodes : List (Node η)} {s t u : σ} {v : Value η} {vs : List (Value η)}
      {first more : List (Event η)} (hn : node.Grounds calls env limits depth s v t first)
      (hns : GroundsAll calls env limits depth nodes t vs u more) :
      GroundsAll calls env limits depth (node :: nodes) s (v :: vs) u (first ++ more)

/-- A call comes, from a state and leaving a trace, to the function that its callee resolves to and
to the arguments for it. -/
inductive Prepares (calls : Calls σ η) (env : Environment η) (limits : Limits) :
    Node η → σ → Function η → List (Value η) → List (Event η) → Prop
  | call {callee : Node η} {operands : List (Node η)} {span : Option Span} {depth : Depth}
      {s t u : σ} {f : Function η} {arguments : List (Value η)} {first more : List (Event η)}
      (hc : callee.Grounds calls env limits (depth.below 2) s (.function f) t first)
      (ha : GroundsAll calls env limits (depth.below 3) operands t arguments u more) :
      Prepares calls env limits (.call callee operands span) s f arguments (first ++ more)

variable {calls : Calls σ η} {env : Environment η} {limits : Limits} {depth : Depth}

theorem Grounds.isReference {node : Node η} {s t : σ} {w : Value η} {events : List (Event η)}
    (h : node.Grounds calls env limits depth s w t events) : w.isReference = false := by
  obtain ⟨-, hr⟩ := h
  exact Environment.isReference_of_resolve hr

theorem GroundsAll.isReference {nodes : List (Node η)} {s t : σ} {vs : List (Value η)}
    {events : List (Event η)} (h : GroundsAll calls env limits depth nodes s vs t events) :
    ∀ v ∈ vs, v.isReference = false := by
  induction h with
  | nil => exact nofun
  | cons hn _ ih => exact List.forall_mem_cons.mpr ⟨hn.isReference, ih⟩

theorem Prepares.isReference {node : Node η} {s : σ} {f : Function η} {arguments : List (Value η)}
    {events : List (Event η)} (h : node.Prepares calls env limits s f arguments events) :
    ∀ v ∈ arguments, v.isReference = false := by
  obtain ⟨-, ha⟩ := h
  exact ha.isReference

theorem grounds_of_bind {node : Node η} {s t : σ} {w : Value η} {events : List (Event η)}
    (h : (evaluate calls env limits depth node >>= Run.resolve env) s = ⟨.ok w, t, events⟩) :
    node.Grounds calls env limits depth s w t events := by
  obtain ⟨v, u, first, more, he, hr, rfl⟩ := Run.exists_eq_of_bind h
  have hw : (env.resolve v).result = .ok w := Run.resolve_eq_ok.mp (congrArg Outcome.result hr)
  have hu : u = t := congrArg Outcome.state hr
  have hm : (env.resolve v).looked.map .looked = more := congrArg Outcome.events hr
  subst hu hm
  exact .resolved he hw

/-! ## Operands -/

theorem grounds_of_number {label : Text} {operand : Node η} {s t : σ} {x : Float}
    {events : List (Event η)}
    (h : Run.number env label (evaluate calls env limits depth operand) s = ⟨.ok x, t, events⟩) :
    operand.Grounds calls env limits depth s (.number x) t events := by
  rw [Run.number, ← bind_assoc] at h
  obtain ⟨w, u, first, more, hw, hx, rfl⟩ := Run.exists_eq_of_bind h
  cases w with
  | number y =>
    cases hx
    rw [List.append_nil]
    exact grounds_of_bind hw
  | _ => cases hx

theorem operands_of_binary {op : Operator} {left right : Node η} {span : Option Span} {s u : σ}
    {v : Value η} {events : List (Event η)}
    (h : evaluate calls env limits depth (.binary op left right span) s = ⟨.ok v, u, events⟩) :
    ∃ x y t first more, left.Grounds calls env limits (depth.below 2) s (.number x) t first ∧
      right.Grounds calls env limits (depth.below 2) t (.number y) u more ∧
      events = first ++ more ∧ v = .number (op.apply x y) := by
  rw [evaluate] at h
  obtain ⟨x, t, first, rest, hx, hright, rfl⟩ := Run.exists_eq_of_bind (Run.eq_of_within h)
  obtain ⟨y, w, more, last, hy, hv, rfl⟩ := Run.exists_eq_of_bind hright
  cases hv
  refine ⟨x, y, t, first, more, grounds_of_number hx, grounds_of_number hy, ?_, rfl⟩
  rw [List.append_nil]

theorem operand_of_negate {operand : Node η} {span : Option Span} {s u : σ} {v : Value η}
    {events : List (Event η)}
    (h : evaluate calls env limits depth (.negate operand span) s = ⟨.ok v, u, events⟩) :
    ∃ x, operand.Grounds calls env limits (depth.below 2) s (.number x) u events ∧
      v = .number (-x) := by
  rw [evaluate] at h
  obtain ⟨x, t, first, more, hx, hv, rfl⟩ := Run.exists_eq_of_bind (Run.eq_of_within h)
  cases hv
  rw [List.append_nil]
  exact ⟨x, grounds_of_number hx, rfl⟩

/-! ## Invocations -/

theorem groundsAll_of_evaluateAll {nodes : List (Node η)} {s u : σ} {vs : List (Value η)}
    {events : List (Event η)}
    (h : evaluateAll calls env limits depth nodes s = ⟨.ok vs, u, events⟩) :
    GroundsAll calls env limits depth nodes s vs u events := by
  induction nodes generalizing s vs events with
  | nil =>
    cases h
    exact .nil
  | cons n ns ih =>
    rw [evaluateAll, ← bind_assoc] at h
    obtain ⟨v, t, first, rest, hv, hrest, rfl⟩ := Run.exists_eq_of_bind h
    obtain ⟨ws, w, more, last, hws, hvs, rfl⟩ := Run.exists_eq_of_bind hrest
    cases hvs
    rw [List.append_nil]
    exact .cons (grounds_of_bind hv) (ih hws)

/-- Evaluates what a call at a depth needs before it can invoke a function. -/
def prepare (calls : Calls σ η) (env : Environment η) (limits : Limits) (depth : Depth)
    (callee : Node η) (operands : List (Node η)) : Run σ η (Function η × List (Value η)) := do
  let c ← evaluate calls env limits (depth.below 2) callee >>= Run.resolve env
  match c with
  | .function f => do
    let vs ← evaluateAll calls env limits (depth.below 3) operands
    pure (f, vs)
  | other => Run.stop (.showing .notAFunction other)

theorem evaluate_call (callee : Node η) (operands : List (Node η)) (span : Option Span) :
    evaluate calls env limits depth (.call callee operands span) =
      .within limits depth (prepare calls env limits depth callee operands >>= fun ready =>
        Run.call calls ready.1 ready.2) := by
  rw [evaluate, prepare, bind_assoc, bind_assoc]
  congr 2
  funext v
  congr 1
  funext c
  cases c with
  | function f => simp only [bind_assoc, pure_bind]
  | _ => rfl

theorem prepares_of_prepare {callee : Node η} {operands : List (Node η)} {span : Option Span}
    {s u : σ} {f : Function η} {arguments : List (Value η)} {events : List (Event η)}
    (h : prepare calls env limits depth callee operands s = ⟨.ok (f, arguments), u, events⟩) :
    Prepares calls env limits (.call callee operands span) s f arguments events := by
  obtain ⟨c, t, first, rest, hc, hrest, rfl⟩ := Run.exists_eq_of_bind h
  cases c with
  | function g =>
    obtain ⟨vs, w, more, last, hvs, hp, rfl⟩ := Run.exists_eq_of_bind hrest
    cases hp
    rw [List.append_nil]
    exact .call (grounds_of_bind hc) (groundsAll_of_evaluateAll hvs)
  | _ => cases hrest

/-- Each invocation in the trace of a run from a state is that of a call among the nodes, which has
just come to the function and the arguments. -/
def Prepared (calls : Calls σ η) (env : Environment η) (limits : Limits) (nodes : List (Node η))
    (s : σ) (events : List (Event η)) : Prop :=
  ∀ before f arguments later, events = before ++ .called f arguments :: later →
    ∃ node ∈ nodes, ∃ earlier ready, before = earlier ++ ready ∧
      node.Prepares calls env limits (calls.after s earlier) f arguments ready

section Prepared
variable {nodes : List (Node η)} {s : σ}

theorem Prepared.looked (names : List Text) :
    Prepared calls env limits nodes s (names.map .looked) := by
  intro before f arguments later h
  have hm : Event.called f arguments ∈ names.map Event.looked := by
    rw [h]
    exact List.mem_append_right _ List.mem_cons_self
  obtain ⟨name, -, hn⟩ := List.mem_map.mp hm
  cases hn

theorem entry_of_append {xs ys before later : List α} {x : α}
    (h : xs ++ ys = before ++ x :: later) :
    (∃ middle, xs = before ++ x :: middle) ∨
      ∃ middle, before = xs ++ middle ∧ ys = middle ++ x :: later := by
  rcases List.append_eq_append_iff.mp h with ⟨middle, hb, hy⟩ | ⟨middle, hx, hl⟩
  · exact .inr ⟨middle, hb, hy⟩
  · cases middle with
    | nil =>
      rw [List.append_nil] at hx
      exact .inr ⟨[], by rw [List.append_nil, hx], hl.symm⟩
    | cons y middle =>
      obtain ⟨rfl, -⟩ := List.cons.inj hl
      exact .inl ⟨middle, hx⟩

theorem Prepared.append {events more : List (Event η)}
    (h : Prepared calls env limits nodes s events)
    (hm : Prepared calls env limits nodes (calls.after s events) more) :
    Prepared calls env limits nodes s (events ++ more) := by
  intro before f arguments later he
  rcases entry_of_append he with ⟨middle, hfirst⟩ | ⟨middle, rfl, hmore⟩
  · exact h before f arguments middle hfirst
  · obtain ⟨node, hn, earlier, ready, rfl, hp⟩ := hm middle f arguments later hmore
    rw [← calls.after_append] at hp
    exact ⟨node, hn, events ++ earlier, ready, (List.append_assoc ..).symm, hp⟩

/-- A call that has come to a function and its arguments may invoke it next. -/
theorem Prepared.called {node : Node η} {f : Function η} {arguments : List (Value η)}
    {ready : List (Event η)} (h : Prepared calls env limits nodes s ready) (hn : node ∈ nodes)
    (hp : node.Prepares calls env limits s f arguments ready) :
    Prepared calls env limits nodes s (ready ++ [.called f arguments]) := by
  intro before g others later he
  rcases entry_of_append he with ⟨middle, hready⟩ | ⟨middle, rfl, hlast⟩
  · exact h before g others middle hready
  · obtain ⟨rfl, hc⟩ | ⟨rfl, hc⟩ := List.singleton_eq_append_iff.mp hlast
    · cases hc
      exact ⟨node, hn, [], ready, List.append_nil _, hp⟩
    · cases hc

theorem Prepared.mono {nodes' : List (Node η)} {events : List (Event η)}
    (h : Prepared calls env limits nodes s events) (hn : nodes ⊆ nodes') :
    Prepared calls env limits nodes' s events := by
  intro before f arguments later he
  obtain ⟨node, hm, hp⟩ := h before f arguments later he
  exact ⟨node, hn hm, hp⟩

end Prepared

/-- From every state, the state being what the calls of the trace have made of it. -/
structure Readies (calls : Calls σ η) (env : Environment η) (limits : Limits)
    (nodes : List (Node η)) (run : Run σ η α) : Prop where
  heeds : Run.Heeds calls run
  prepared : ∀ s, Prepared calls env limits nodes s (run s).events

section Readies
variable {nodes nodes' : List (Node η)}

theorem Readies.bind {run : Run σ η α} {next : α → Run σ η β}
    (h : Readies calls env limits nodes run) (hn : ∀ a, Readies calls env limits nodes (next a)) :
    Readies calls env limits nodes (run >>= next) := by
  refine ⟨h.heeds.bind fun a => (hn a).heeds, fun s => ?_⟩
  have hstate := (h.heeds s).state_eq
  have hfirst := h.prepared s
  rcases hr : run s with ⟨result, t, events⟩
  rw [hr] at hstate hfirst
  cases result with
  | error e =>
    rw [Run.bind_of_error hr]
    exact hfirst
  | ok a =>
    have hmore := (hn a).prepared t
    rw [Run.bind_of_ok hr]
    rw [show t = calls.after s events from hstate] at hmore ⊢
    exact hfirst.append hmore

theorem Readies.lasting (calls : Calls σ η) (env : Environment η) (limits : Limits)
    (nodes : List (Node η)) : Run.Lasting env fun _ => Readies calls env limits nodes where
  pure a := ⟨.pure a, fun _ => .looked []⟩
  stop e := ⟨.stop e, fun _ => .looked []⟩
  resolve v := ⟨.resolve env v, fun _ => .looked _⟩
  bind := .bind

theorem Readies.mono {run : Run σ η α} (h : Readies calls env limits nodes run)
    (hn : nodes ⊆ nodes') : Readies calls env limits nodes' run :=
  ⟨h.heeds, fun s => (h.prepared s).mono hn⟩

/-- A call that gets as far as its invocation has come to what it invokes. -/
theorem Readies.call {callee : Node η} {operands : List (Node η)} {span : Option Span}
    (h : Readies calls env limits nodes (prepare calls env limits depth callee operands))
    (hn : .call callee operands span ∈ nodes) :
    Readies calls env limits nodes
      (evaluate calls env limits depth (.call callee operands span)) := by
  rw [evaluate_call]
  refine ((lasting calls env limits nodes).within ?_)
  refine ⟨h.heeds.bind fun ready => .call ready.1 ready.2, fun s => ?_⟩
  have hready := h.prepared s
  rcases hr : prepare calls env limits depth callee operands s with ⟨result, t, events⟩
  rw [hr] at hready
  cases result with
  | error e =>
    rw [Run.bind_of_error hr]
    exact hready
  | ok ready =>
    rw [Run.bind_of_ok hr]
    exact hready.called hn (prepares_of_prepare hr)

/-- Whatever is invoked in evaluating a tree has been prepared by one of its calls. -/
theorem evaluate_readies (node : Node η) (depth : Depth) :
    Readies calls env limits node.preorder (evaluate calls env limits depth node) := by
  have hP := fun nodes => Readies.lasting calls env limits nodes
  induction node generalizing depth with
  | value v span => exact (hP _).within ((hP _).pure v)
  | binary op left right span ihl ihr =>
    have hleft : left.preorder ⊆ preorder (.binary op left right span) :=
      preorder_subset List.mem_cons_self
    have hright : right.preorder ⊆ preorder (.binary op left right span) :=
      preorder_subset (List.mem_cons_of_mem _ List.mem_cons_self)
    rw [evaluate]
    refine (hP _).within ?_
    refine (hP _).bind ((hP _).number ((ihl (depth.below 2)).mono hleft)) fun x => ?_
    exact (hP _).bind ((hP _).number ((ihr (depth.below 2)).mono hright)) fun y =>
      (hP _).pure (Value.number (op.apply x y))
  | negate operand span ih =>
    have ho : operand.preorder ⊆ preorder (.negate operand span) :=
      preorder_subset List.mem_cons_self
    rw [evaluate]
    exact (hP _).within ((hP _).bind ((hP _).number ((ih (depth.below 2)).mono ho)) fun x =>
      (hP _).pure (Value.number (-x)))
  | call callee arguments span ihc iha =>
    have hcallee : callee.preorder ⊆ preorder (.call callee arguments span) :=
      preorder_subset List.mem_cons_self
    have hc := (ihc (depth.below 2)).mono hcallee
    have ha : ∀ a ∈ arguments, ∀ depth,
        Readies calls env limits (preorder (.call callee arguments span))
          (evaluate calls env limits depth a) := fun a ham depth =>
      (iha a ham depth).mono (preorder_subset (List.mem_cons_of_mem _ ham))
    refine .call ?_ List.mem_cons_self
    refine (hP _).bind ((hP _).bind hc fun v => (hP _).resolve v) fun c => ?_
    cases c with
    | function f =>
      exact (hP _).bind (evaluateAll_lasting (hP _) ha (depth.below 3)) fun vs =>
        (hP _).pure (f, vs)
    | _ => exact (hP _).stop _

theorem ground_readies (node : Node η) :
    Readies calls env limits node.preorder (node.ground calls env limits) :=
  (Readies.lasting ..).bind (node.evaluate_readies 0) fun v => (Readies.lasting ..).resolve v

end Readies

end Node

/-- Nothing that a run consumes is a reference. Its value is what the value of the tree resolves to.
Each invocation is that of a call of the tree, of the function that its callee resolves to, for
arguments that its operands resolve to. Operators work on the numbers that their operands resolve
to, at whatever depth and from whatever state they are evaluated. -/
theorem Program.execute_grounded (calls : Calls σ η) (env : Environment η) (limits : Limits)
    (program : Program η) (s : σ) :
    (∀ v, (program.execute calls env limits s).result = .ok v → v.isReference = false ∧
      program.root.Grounds calls env limits 0 s v (program.execute calls env limits s).state
        (program.execute calls env limits s).events) ∧
    (∀ before f arguments later,
      (program.execute calls env limits s).events = before ++ .called f arguments :: later →
        (∀ v ∈ arguments, v.isReference = false) ∧
        ∃ node ∈ program.root.preorder, ∃ earlier ready, before = earlier ++ ready ∧
          node.Prepares calls env limits (calls.after s earlier) f arguments ready) ∧
    (∀ op left right span, .binary op left right span ∈ program.root.preorder →
      ∀ depth t v u events,
        Node.evaluate calls env limits depth (.binary op left right span) t =
          ⟨.ok v, u, events⟩ →
        ∃ x y w first more, left.Grounds calls env limits (depth.below 2) t (.number x) w first ∧
          right.Grounds calls env limits (depth.below 2) w (.number y) u more ∧
          events = first ++ more ∧ v = .number (op.apply x y)) ∧
    ∀ operand span, .negate operand span ∈ program.root.preorder → ∀ depth t v u events,
      Node.evaluate calls env limits depth (.negate operand span) t = ⟨.ok v, u, events⟩ →
        ∃ x, operand.Grounds calls env limits (depth.below 2) t (.number x) u events ∧
          v = .number (-x) := by
  refine ⟨fun v hv => ?_, fun before f arguments later he => ?_,
    fun op left right span _ depth t v u events h => Node.operands_of_binary h,
    fun operand span _ depth t v u events h => Node.operand_of_negate h⟩
  · have hr : program.root.ground calls env limits s =
        ⟨.ok v, (program.execute calls env limits s).state,
          (program.execute calls env limits s).events⟩ :=
      congrArg (Outcome.mk · _ _) (Run.mapError_eq_ok.mp hv)
    have hg := Node.grounds_of_bind hr
    exact ⟨hg.isReference, hg⟩
  · obtain ⟨node, hn, earlier, ready, rfl, hp⟩ :=
      program.root.ground_readies.prepared s before f arguments later he
    exact ⟨hp.isReference, node, hn, earlier, ready, rfl, hp⟩

end Reckoner
