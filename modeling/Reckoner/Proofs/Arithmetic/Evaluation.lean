import Reckoner.Proofs.Arithmetic.Stacks
import Reckoner.Proofs.Run.Sequence

/-! # Evaluation of arithmetic

A tree without references and calls evaluates to its number, looks nothing up, calls nothing and
leaves the state alone. Nothing but its height can prevent this. Division is total: by a zero it
gives an infinity with the signs of both operands, or no number at all if the dividend is no number
other than zero.
-/
namespace Reckoner
variable {σ η : Type}

namespace Node

def Plain : Node η → Prop
  | .value (.number _) _ | .binary .. | .negate .. => True
  | _ => False

theorem exists_number_iff (node : Node η) :
    (∃ x, node.number? = some x) ↔ ∀ n ∈ node.preorder, n.Plain := by
  induction node with
  | value v span =>
    rw [preorder, List.forall_mem_singleton]
    cases v with
    | number x => exact ⟨fun _ => trivial, fun _ => ⟨x, rfl⟩⟩
    | _ =>
      constructor
      · rintro ⟨x, hx⟩
        cases hx
      · exact False.elim
  | binary op left right span ihl ihr =>
    rw [preorder, List.forall_mem_cons, List.forall_mem_append, ← ihl, ← ihr]
    constructor
    · rintro ⟨z, hz⟩
      obtain ⟨x, y, hx, hy, -⟩ := number?_binary hz
      exact ⟨trivial, ⟨x, hx⟩, ⟨y, hy⟩⟩
    · rintro ⟨-, ⟨x, hx⟩, ⟨y, hy⟩⟩
      exact ⟨op.apply x y, by simp only [number?, hx, hy]⟩
  | negate operand span ih =>
    rw [preorder, List.forall_mem_cons, ← ih]
    constructor
    · rintro ⟨z, hz⟩
      obtain ⟨x, hx, -⟩ := number?_negate hz
      exact ⟨trivial, x, hx⟩
    · rintro ⟨-, x, hx⟩
      exact ⟨-x, by rw [number?, hx, Option.map_some]⟩
  | call callee arguments span ihc iha =>
    rw [preorder, List.forall_mem_cons]
    constructor
    · rintro ⟨x, hx⟩
      cases hx
    · intro h
      exact h.1.elim

end Node

namespace Run

theorem resolve_number (env : Environment η) (x : Float) :
    (resolve env (.number x) : Run σ η (Value η)) = Pure.pure (.number x) := by
  funext s
  have hr : env.resolve (.number x) = ⟨[], .ok (.number x)⟩ := by
    unfold Environment.resolve Environment.follow
    rfl
  simp only [resolve, hr]
  rfl

/-- The outcome of a computation that takes so many places of the stack. -/
def reaching {α : Type} (limits : Limits) (places : Nat) (a : α) : Run σ η α :=
  if places ≤ limits.stack then Pure.pure a else stop .stackExhausted

section Reaching
variable {α β : Type} {limits : Limits} {depth : Depth} {places : Nat}

theorem within_pure (hd : depth.levels ≤ limits.nesting) (a : α) :
    (within limits depth (Pure.pure a) : Run σ η α) = reaching limits depth.places a := by
  unfold within reaching
  rw [if_neg (Nat.not_lt.mpr hd)]
  by_cases hs : depth.places ≤ limits.stack
  · rw [if_pos hs, if_neg (Nat.not_lt.mpr hs)]
  · rw [if_neg hs, if_pos (Nat.lt_of_not_le hs)]

/-- What takes more places than its start does not fail at the start. -/
theorem within_reaching (hd : depth.levels ≤ limits.nesting) (hl : depth.places ≤ places) (a : α) :
    (within limits depth (reaching limits places a) : Run σ η α) = reaching limits places a := by
  unfold within
  rw [if_neg (Nat.not_lt.mpr hd)]
  by_cases hs : limits.stack < depth.places
  · rw [if_pos hs, reaching, if_neg (Nat.not_le.mpr (hs.trans_le hl))]
  · rw [if_neg hs]

theorem reaching_bind (a : α) (next : α → Run σ η β) :
    (reaching limits places a >>= next) =
      if places ≤ limits.stack then next a else stop .stackExhausted := by
  unfold reaching
  split
  · exact pure_bind a next
  · rfl

theorem reaching_pure (a : α) (f : α → β) :
    (reaching limits places a >>= fun a => Pure.pure (f a) : Run σ η β) =
      reaching limits places (f a) := reaching_bind a _

theorem reaching_both {γ : Type} (other : Nat) (a : α) (b : β) (f : α → β → γ) :
    (reaching limits places a >>= fun a => reaching limits other b >>= fun b =>
      Pure.pure (f a b) : Run σ η γ) = reaching limits (max places other) (f a b) := by
  rw [reaching_bind, reaching_bind]
  unfold reaching
  -- if the first computation is stopped, the second does not begin
  by_cases hl : places ≤ limits.stack
  · have hm : max places other ≤ limits.stack ↔ other ≤ limits.stack := by omega
    simp only [if_pos hl, hm]
  · have hm : ¬max places other ≤ limits.stack := by omega
    rw [if_neg hl, if_neg hm]

theorem number_reaching (env : Environment η) (label : Text) (x : Float) :
    (number env label (reaching limits places (.number x)) : Run σ η Float) =
      reaching limits places x := by
  rw [number, reaching_bind]
  simp only [resolve_number, pure_bind]
  rfl

end Reaching

end Run

namespace Node
open Run (reaching)
variable {calls : Calls σ η} {env : Environment η} {limits : Limits}

theorem evaluate_number {node : Node η} {x : Float} (h : node.number? = some x) (depth : Depth)
    (hd : depth.levels + node.height ≤ limits.nesting) : evaluate calls env limits depth node =
      reaching limits (depth.places + 2 * node.height) (Value.number x) := by
  induction node generalizing depth x with
  | value v span =>
    cases v with
    | number y =>
      cases h
      exact Run.within_pure hd (Value.number x)
    | _ => cases h
  | binary op left right span ihl ihr =>
    obtain ⟨x, y, hx, hy, rfl⟩ := number?_binary h
    rw [height] at hd ⊢
    have hl := ihl hx (depth.below 2) (by rw [Depth.levels_below]; omega)
    have hr := ihr hy (depth.below 2) (by rw [Depth.levels_below]; omega)
    have hm : max ((depth.below 2).places + 2 * left.height)
        ((depth.below 2).places + 2 * right.height) =
        depth.places + 2 * (max left.height right.height + 1) := by
      rw [Depth.places_below]
      omega
    have hboth : (reaching limits ((depth.below 2).places + 2 * left.height) x >>= fun a =>
        reaching limits ((depth.below 2).places + 2 * right.height) y >>= fun b =>
          Pure.pure (Value.number (op.apply a b)) : Run σ η (Value η)) = _ :=
      Run.reaching_both _ x y fun a b => Value.number (op.apply a b)
    rw [hm] at hboth
    rw [evaluate, hl, hr, Run.number_reaching, Run.number_reaching]
    exact (congrArg _ hboth).trans (Run.within_reaching (by omega) (by omega) _)
  | negate operand span ih =>
    obtain ⟨x, hx, rfl⟩ := number?_negate h
    rw [height] at hd ⊢
    have ho := ih hx (depth.below 2) (by rw [Depth.levels_below]; omega)
    have hm : (depth.below 2).places + 2 * operand.height =
        depth.places + 2 * (operand.height + 1) := by
      rw [Depth.places_below]
      omega
    have hall : (reaching limits (depth.places + 2 * (operand.height + 1)) x >>= fun a =>
        Pure.pure (Value.number (-a)) : Run σ η (Value η)) =
          reaching limits (depth.places + 2 * (operand.height + 1)) (.number (-x)) :=
      Run.reaching_pure x fun a => Value.number (-a)
    rw [evaluate, ho, hm, Run.number_reaching]
    exact (congrArg _ hall).trans (Run.within_reaching (by omega) (by omega) _)
  | call callee arguments span => cases h

end Node

theorem Program.execute_number {limits : Limits} {program : Program η} {x : Float}
    (hx : program.root.number? = some x) (hd : program.root.height ≤ limits.nesting)
    (calls : Calls σ η) (env : Environment η) (s : σ) :
    program.execute calls env limits s =
      ⟨if 2 * program.root.height ≤ limits.stack then .ok (.number x)
        else .error (.error .stackExhausted), s, []⟩ := by
  have he : program.root.evaluate calls env limits 0 = Run.reaching limits _ (.number x) :=
    Node.evaluate_number hx 0 (by rwa [Depth.levels_zero, Nat.zero_add])
  rw [Depth.places_zero, Nat.zero_add] at he
  have hg : program.root.ground calls env limits =
      Run.reaching limits (2 * program.root.height) (.number x) := by
    rw [Node.ground, he, Run.reaching_bind, Run.resolve_number]
    rfl
  rw [execute, hg, Run.reaching]
  split <;> rfl

/-! ## Division -/

namespace Operator

/-- A zero divided by a zero is no number, nor is what was none before. -/
theorem quotient_undefined {x y : Float} (hy : (y == 0) = true)
    (hx : (x == 0) = true ∨ x.isNaN = true) : (apply .divide x y).isNaN = true := by
  have hc : (x == 0 || x.isNaN) = true := (Bool.or_eq_true _ _).mpr hx
  rw [apply, quotient, if_pos hy, if_pos hc]
  decide

/-- Everything else divided by a zero is infinite, negative if just one of both is. -/
theorem quotient_infinite {x y : Float} (hy : (y == 0) = true) (hx : (x == 0) = false)
    (hn : x.isNaN = false) : (apply .divide x y).isInf = true ∧
      Binary64.isNegative (apply .divide x y) =
        (Binary64.isNegative x != Binary64.isNegative y) := by
  have hc : ¬(x == 0 || x.isNaN) = true := by
    rw [hx, hn]
    exact Bool.false_ne_true
  have hi : ∀ negative, (Binary64.ofBits negative Binary64.infinityBits).isInf = true ∧
      Binary64.isNegative (Binary64.ofBits negative Binary64.infinityBits) = negative := by
    intro negative
    cases negative <;> decide
  rw [apply, quotient, if_pos hy, if_neg hc]
  exact hi _

theorem quotient_finite {x y : Float} (hy : (y == 0) = false) : apply .divide x y = x / y := by
  have hc : ¬(y == 0) = true := by
    rw [hy]
    exact Bool.false_ne_true
  rw [apply, quotient, if_neg hc]

end Operator

end Reckoner
