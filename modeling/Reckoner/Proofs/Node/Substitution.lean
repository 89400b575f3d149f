import Reckoner.Proofs.Node.Shape

/-! # A tree in place of a name

All references to a name in a tree can be exchanged for another tree, also where they are called or
are arguments. The spans of the other nodes stay, and the tree gets no lower.
-/
namespace Reckoner
variable {η : Type}

namespace Node

mutual

/-- A tree with another one in place of all references to a name. -/
def substitute (name : Text) (part : Node η) : Node η → Node η
  | .value (.reference n) span => if n = name then part else .value (.reference n) span
  | .value v span => .value v span
  | .binary op left right span =>
    .binary op (substitute name part left) (substitute name part right) span
  | .negate operand span => .negate (substitute name part operand) span
  | .call callee arguments span =>
    .call (substitute name part callee) (substituteAll name part arguments) span

def substituteAll (name : Text) (part : Node η) : List (Node η) → List (Node η)
  | [] => []
  | n :: ns => substitute name part n :: substituteAll name part ns

end

@[simp] theorem substituteAll_eq_map (name : Text) (part : Node η) (ns : List (Node η)) :
    substituteAll name part ns = ns.map (substitute name part) := by
  induction ns with
  | nil => rfl
  | cons n ns ih => rw [substituteAll, ih, List.map_cons]

theorem extent_le_substitute (name : Text) (part node : Node η) :
    node.extent ≤ (substitute name part node).extent := by
  induction node with
  | value v span => exact ⟨Nat.zero_le _, Nat.zero_le _⟩
  | binary op left right span ihl ihr =>
    rw [substitute, extent_binary, extent_binary]
    exact Depth.below_le_below (Depth.max_le_max ihl ihr) 2
  | negate operand span ih => exact Depth.below_le_below ih 2
  | call callee arguments span ihc iha =>
    have ha : extentAll arguments ≤ extentAll (substituteAll name part arguments) := by
      clear ihc
      induction arguments with
      | nil => exact le_refl _
      | cons n ns ih =>
        obtain ⟨hn, hns⟩ := List.forall_mem_cons.mp iha
        rw [substituteAll, extentAll_cons, extentAll_cons]
        exact Depth.max_le_max (Depth.listed_le_listed hn) (ih hns)
    rw [substitute, extent_call, extent_call]
    exact Depth.below_le_below (Depth.max_le_max ihc ha) 2

end Node

end Reckoner
