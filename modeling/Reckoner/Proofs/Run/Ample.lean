import Reckoner.Proofs.Run.Sequence

/-! # Ample limits

Limits are ample for a tree if they allow for its height, with as many places on the stack as its
evaluation takes. Then they take no part in its evaluation, whatever its depth: all ample limits
give the same run. An evaluation that ends well has been down to every leaf, so its limits were
ample.
-/
namespace Reckoner
variable {σ η α β : Type}

namespace Run

theorem within_allowed {limits : Limits} {depth : Depth} (h : limits.Allow depth)
    (run : Run σ η α) : within limits depth run = run := by
  rw [within, if_neg (Nat.not_lt.mpr h.2), if_neg (Nat.not_lt.mpr h.1)]

variable (σ η) in
/-- Two limits, each from a depth of its own on, let the same runs through down to an extent. -/
def Alike (limits : Limits) (depth : Depth) (limits' : Limits) (depth' extent : Depth) : Prop :=
  ∀ d ≤ extent, ∀ run : Run σ η (Value η),
    within limits (depth + d) run = within limits' (depth' + d) run

section Alike
variable {limits limits' : Limits} {depth depth' extent : Depth}

theorem Alike.root (h : Alike σ η limits depth limits' depth' extent) (run : Run σ η (Value η)) :
    within limits depth run = within limits' depth' run := by
  have hr := h 0 ⟨Nat.zero_le _, Nat.zero_le _⟩ run
  rwa [Depth.add_zero, Depth.add_zero] at hr

theorem Alike.mono (h : Alike σ η limits depth limits' depth' extent) {lower : Depth}
    (hle : lower ≤ extent) : Alike σ η limits depth limits' depth' lower :=
  fun d hd => h d (hd.trans hle)

theorem Alike.below {places : Nat}
    (h : Alike σ η limits depth limits' depth' (extent.below places)) :
    Alike σ η limits (depth.below places) limits' (depth'.below places) extent := by
  intro d hd run
  rw [Depth.below_add, Depth.below_add]
  exact h _ (Depth.below_le_below hd places) run

end Alike

theorem allowed_of_within {limits : Limits} {depth : Depth} {run : Run σ η α} {s : σ} {a : α}
    (h : (within limits depth run s).result = .ok a) :
    limits.Allow depth ∧ (run s).result = .ok a := by
  unfold within at h
  split at h
  · cases h
  · next hs =>
    split at h
    · cases h
    · next hn => exact ⟨⟨Nat.le_of_not_lt hn, Nat.le_of_not_lt hs⟩, h⟩

theorem exists_ok_of_bind {run : Run σ η α} {next : α → Run σ η β} {s : σ} {b : β}
    (h : ((run >>= next) s).result = .ok b) :
    ∃ a t, (run s).result = .ok a ∧ (next a t).result = .ok b := by
  rcases hr : run s with ⟨result, t, events⟩
  cases result with
  | error e =>
    rw [bind_of_error hr] at h
    cases h
  | ok a =>
    rw [bind_of_ok hr] at h
    exact ⟨a, t, rfl, h⟩

theorem exists_ok_of_number {env : Environment η} {label : Text} {operand : Run σ η (Value η)}
    {s : σ} {x : Float} (h : (number env label operand s).result = .ok x) :
    ∃ v, (operand s).result = .ok v := by
  obtain ⟨v, t, hv, -⟩ := exists_ok_of_bind h
  exact ⟨v, hv⟩

end Run

namespace Node
open Run (exists_ok_of_bind exists_ok_of_number)
variable {calls : Calls σ η} {env : Environment η} {limits limits' : Limits}

/-! ## Ample limits are alike -/

theorem evaluateAll_alike {arguments : List (Node η)} {depth depth' : Depth}
    (h : ∀ a ∈ arguments,
      evaluate calls env limits depth a = evaluate calls env limits' depth' a) :
    evaluateAll calls env limits depth arguments =
      evaluateAll calls env limits' depth' arguments := by
  induction arguments with
  | nil => rfl
  | cons n ns ih =>
    obtain ⟨hfirst, hrest⟩ := List.forall_mem_cons.mp h
    rw [evaluateAll, evaluateAll, hfirst, ih hrest]

/-- Limits take part in evaluation only at the depths that the tree goes down to. -/
theorem evaluate_alike (node : Node η) {depth depth' : Depth}
    (h : Run.Alike σ η limits depth limits' depth' node.extent) :
    evaluate calls env limits depth node = evaluate calls env limits' depth' node := by
  induction node generalizing depth depth' with
  | value v span => exact h.root _
  | binary op left right span ihl ihr =>
    rw [extent_binary] at h
    have hl : evaluate calls env limits (depth.below 2) left =
        evaluate calls env limits' (depth'.below 2) left :=
      ihl (h.below.mono (Depth.le_max_left _ _))
    have hr : evaluate calls env limits (depth.below 2) right =
        evaluate calls env limits' (depth'.below 2) right :=
      ihr (h.below.mono (Depth.le_max_right _ _))
    rw [evaluate, evaluate, h.root, hl, hr]
  | negate operand span ih =>
    rw [extent_negate] at h
    rw [evaluate, evaluate, h.root, ih h.below]
  | call callee arguments span ihc iha =>
    rw [extent_call] at h
    have hc : evaluate calls env limits (depth.below 2) callee =
        evaluate calls env limits' (depth'.below 2) callee :=
      ihc (h.below.mono (Depth.le_max_left _ _))
    have ha : evaluateAll calls env limits (depth.below 3) arguments =
        evaluateAll calls env limits' (depth'.below 3) arguments := by
      refine evaluateAll_alike fun a ham => iha a ham (Run.Alike.below (h.mono ?_))
      -- a place in the list is one more on the stack
      exact Depth.below_le_below ((le_extentAll ham).trans (Depth.le_max_right _ _)) 2
    rw [evaluate, evaluate, h.root, hc, ha]

theorem evaluate_ample (node : Node η) {depth depth' : Depth}
    (h : limits.Allow (depth + node.extent)) (h' : limits'.Allow (depth' + node.extent)) :
    evaluate calls env limits depth node = evaluate calls env limits' depth' node := by
  refine evaluate_alike node fun d hd run => ?_
  rw [Run.within_allowed (h.mono (Depth.add_le_add_left hd _)),
    Run.within_allowed (h'.mono (Depth.add_le_add_left hd _))]

/-- A limit that allows for the tree can be any, as long as the stack is the same. -/
theorem ground_allowed {node : Node η} (hs : limits.stack = limits'.stack)
    (h : node.height ≤ limits.nesting) (h' : node.height ≤ limits'.nesting) :
    node.ground calls env limits = node.ground calls env limits' := by
  have he : evaluate calls env limits 0 node = evaluate calls env limits' 0 node := by
    refine evaluate_alike node fun d hd run => ?_
    rw [Depth.zero_add, Run.within, Run.within, hs, if_neg (Nat.not_lt.mpr (hd.1.trans h)),
      if_neg (Nat.not_lt.mpr (hd.1.trans h'))]
  rw [ground, ground, he]

theorem ground_ample {node : Node η} (h : limits.Allow node.extent)
    (h' : limits'.Allow node.extent) :
    node.ground calls env limits = node.ground calls env limits' := by
  have he : evaluate calls env limits 0 node = evaluate calls env limits' 0 node :=
    evaluate_ample node (by rwa [Depth.zero_add]) (by rwa [Depth.zero_add])
  rw [ground, ground, he]

/-! ## Evaluations that end well -/

theorem allowed_of_evaluateAll {arguments : List (Node η)} {depth : Depth}
    (hn : ∀ a ∈ arguments, ∀ s v,
      (evaluate calls env limits (depth.below 3) a s).result = .ok v →
        limits.Allow (depth.below 3 + a.extent)) (hd : limits.Allow (depth.below 2)) {s : σ}
    {vs : List (Value η)}
    (h : (evaluateAll calls env limits (depth.below 3) arguments s).result = .ok vs) :
    limits.Allow (depth.below 2 + extentAll arguments) := by
  induction arguments generalizing s vs with
  | nil =>
    rw [extentAll_nil, Depth.add_zero]
    exact hd
  | cons n ns ih =>
    obtain ⟨hfirst, hrest⟩ := List.forall_mem_cons.mp hn
    rw [evaluateAll] at h
    obtain ⟨v, t, hv, h⟩ := exists_ok_of_bind h
    obtain ⟨w, u, -, h⟩ := exists_ok_of_bind h
    obtain ⟨ws, r, hws, -⟩ := exists_ok_of_bind h
    rw [extentAll_cons, Depth.add_max, Limits.allow_max, Depth.add_listed]
    exact ⟨hfirst s v hv, ih hrest hws⟩

theorem allowed_of_evaluate (node : Node η) {depth : Depth} {s : σ} {v : Value η}
    (h : (evaluate calls env limits depth node s).result = .ok v) :
    limits.Allow (depth + node.extent) := by
  induction node generalizing depth s v with
  | value w span =>
    rw [extent_value, Depth.add_zero]
    exact (Run.allowed_of_within h).1
  | binary op left right span ihl ihr =>
    rw [evaluate] at h
    obtain ⟨x, t, hx, h⟩ := exists_ok_of_bind (Run.allowed_of_within h).2
    obtain ⟨y, u, hy, -⟩ := exists_ok_of_bind h
    obtain ⟨l, hl⟩ := exists_ok_of_number hx
    obtain ⟨r, hr⟩ := exists_ok_of_number hy
    rw [extent_binary, ← Depth.below_add, Depth.add_max]
    exact Limits.allow_max.mpr ⟨ihl hl, ihr hr⟩
  | negate operand span ih =>
    rw [evaluate] at h
    obtain ⟨x, t, hx, -⟩ := exists_ok_of_bind (Run.allowed_of_within h).2
    obtain ⟨w, hw⟩ := exists_ok_of_number hx
    rw [extent_negate, ← Depth.below_add]
    exact ih hw
  | call callee arguments span ihc iha =>
    rw [evaluate] at h
    obtain ⟨w, t, hw, h⟩ := exists_ok_of_bind (Run.allowed_of_within h).2
    obtain ⟨c, u, -, h⟩ := exists_ok_of_bind h
    have hc := ihc hw
    cases c with
    | function f =>
      obtain ⟨vs, r, hvs, -⟩ := exists_ok_of_bind h
      have ha := allowed_of_evaluateAll (fun a ha s v => iha a ha)
        (hc.mono (Depth.le_add_right _ _)) hvs
      rw [extent_call, ← Depth.below_add, Depth.add_max]
      exact Limits.allow_max.mpr ⟨hc, ha⟩
    | _ => cases h

end Node

end Reckoner
