import Reckoner.Proofs.Limits
import Reckoner.Proofs.Node.Depth

/-! # What a printed tree is read as

Only operators with two operands are printed in parentheses. So the minus signs of a callee are read
as signs of the whole call, and an infinite number, which is printed as a name, is read as a
reference. All else is read as it was. The tree read back is described here without any text, with
how deep its expression is nested, for which the parentheses count as well.
-/
namespace Reckoner.Node
variable {η : Type}

def isNegation : Node η → Bool
  | .negate .. => true
  | _ => false

def isSignedCall : Node η → Bool
  | .call callee _ _ => callee.isNegation
  | _ => false

def isInfinite : Node η → Bool
  | .value (.number x) _ => x.isInf
  | _ => false

/-- All nodes are printed so that they are read back. -/
def Faithful (node : Node η) : Prop :=
  ∀ n ∈ node.preorder, n.isSignedCall = false ∧ n.isInfinite = false

def signs : Node η → Nat
  | .negate operand _ => operand.signs + 1
  | .call callee _ _ => callee.signs
  | _ => 0

def signed : Nat → Node η → Node η
  | 0, n => n
  | count + 1, n => .negate (signed count n) none

mutual

/-- What is read after the minus signs that are printed first. -/
def core : Node η → Node η
  | .value (.number x) _ =>
    if x.isInf then .value (.reference "inf".toList) none else .value (.number x) none
  | .value v _ => .value v none
  | .binary op left right _ =>
    .binary op (signed left.signs left.core) (signed right.signs right.core) none
  | .negate operand _ => operand.core
  | .call callee arguments _ => .call callee.core (rereadAll arguments) none

def rereadAll : List (Node η) → List (Node η)
  | [] => []
  | n :: ns => signed n.signs n.core :: rereadAll ns

end

/-- What a printed tree is read as. -/
def reread (node : Node η) : Node η := signed node.signs node.core

mutual

/-- How deep the expression after the first minus signs is nested, and how much of the stack it
takes to lower it. -/
def coreExtent : Node η → Depth
  | .value .. => 0
  | .binary _ left right _ =>
    ((max (left.coreExtent + ⟨left.signs, left.signs⟩)
      (right.coreExtent + ⟨right.signs, right.signs⟩)).below 1).below 1
  | .negate operand _ => operand.coreExtent
  | .call callee arguments _ =>
    (max callee.coreExtent (argumentsExtent arguments)).below 1

def argumentsExtent : List (Node η) → Depth
  | [] => 0
  | n :: ns => max (n.coreExtent + ⟨n.signs, n.signs⟩).listed (argumentsExtent ns)

end

/-- How deep the printed expression is nested. Each minus sign is a level. -/
def printedExtent (node : Node η) : Depth := node.coreExtent + ⟨node.signs, node.signs⟩

/-! ## Lists of nodes -/

@[simp] theorem rereadAll_eq_map (nodes : List (Node η)) :
    rereadAll nodes = nodes.map reread := by
  induction nodes with
  | nil => rfl
  | cons n ns ih => simp [rereadAll, ih, reread]

theorem forall_mem_preorderAll {nodes : List (Node η)} {property : Node η → Prop} :
    (∀ m ∈ preorderAll nodes, property m) ↔ ∀ n ∈ nodes, ∀ m ∈ n.preorder, property m := by
  simp only [preorderAll_eq_flatMap, List.forall_mem_flatMap]

theorem argumentsExtent_le {nodes : List (Node η)} {bound : Depth}
    (h : ∀ n ∈ nodes, n.printedExtent.listed ≤ bound) : argumentsExtent nodes ≤ bound := by
  induction nodes with
  | nil => exact ⟨Nat.zero_le _, Nat.zero_le _⟩
  | cons n ns ih =>
    obtain ⟨hn, hns⟩ := List.forall_mem_cons.mp h
    exact ⟨Nat.max_le.mpr ⟨hn.1, (ih hns).1⟩, Nat.max_le.mpr ⟨hn.2, (ih hns).2⟩⟩

theorem height_le_heightAll {nodes : List (Node η)} {n : Node η} (h : n ∈ nodes) :
    n.height ≤ heightAll nodes := by
  induction nodes with
  | nil => cases h
  | cons m ms ih =>
    rw [heightAll]
    rcases List.mem_cons.mp h with rfl | h
    · exact Nat.le_max_left _ _
    · exact Nat.le_trans (ih h) (Nat.le_max_right _ _)

/-! ## Depth -/

/-- Without calls of negations only a negation starts with a sign. -/
theorem signs_eq_zero {node : Node η} (h : ∀ n ∈ node.preorder, n.isSignedCall = false)
    (hn : node.isNegation = false) : node.signs = 0 := by
  induction node with
  | value | binary => rfl
  | negate => cases hn
  | call callee arguments span ih =>
    rw [preorder, List.forall_mem_cons, List.forall_mem_append] at h
    exact ih h.2.1 h.1

theorem printedExtent_le {node : Node η} (h : ∀ n ∈ node.preorder, n.isSignedCall = false) :
    node.printedExtent ≤ ⟨2 * node.height, 2 * node.height⟩ := by
  induction node with
  | value => exact le_refl _
  | binary op left right span ihl ihr =>
    rw [preorder, List.forall_mem_cons, List.forall_mem_append] at h
    have hl := ihl h.2.1
    have hr := ihr h.2.2
    simp [printedExtent, signs, coreExtent, height, Depth.le_iff] at hl hr ⊢
    omega
  | negate operand span ih =>
    rw [preorder, List.forall_mem_cons] at h
    have ho := ih h.2
    simp [printedExtent, signs, coreExtent, height, Depth.le_iff] at ho ⊢
    omega
  | call callee arguments span ihc iha =>
    rw [preorder, List.forall_mem_cons, List.forall_mem_append, forall_mem_preorderAll] at h
    have hc := ihc h.2.1
    have hs := signs_eq_zero h.2.1 h.1
    have ha : argumentsExtent arguments ≤
        ⟨2 * heightAll arguments, 2 * heightAll arguments + 1⟩ :=
      argumentsExtent_le fun a ham => by
        have hle := iha a ham (h.2.2 a ham)
        have hh := height_le_heightAll ham
        simp [Depth.le_iff] at hle ⊢
        omega
    simp [printedExtent, signs, coreExtent, height, Depth.le_iff] at hc ha ⊢
    omega

theorem countP_le_preorderAll {nodes : List (Node η)} {n : Node η} (h : n ∈ nodes) :
    n.preorder.countP isNegation ≤ (preorderAll nodes).countP isNegation := by
  induction nodes with
  | nil => cases h
  | cons m ms ih =>
    rw [preorderAll, List.countP_append]
    rcases List.mem_cons.mp h with rfl | h
    · exact Nat.le_add_right _ _
    · exact Nat.le_trans (ih h) (Nat.le_add_left _ _)

theorem signs_le (node : Node η) : node.signs ≤ node.preorder.countP isNegation := by
  induction node with
  | value | binary => exact Nat.zero_le _
  | negate operand span ih =>
    rw [preorder, List.countP_cons_of_pos rfl]
    exact Nat.succ_le_succ ih
  | call callee arguments span ih =>
    rw [preorder, List.countP_cons_of_neg Bool.false_ne_true, List.countP_append]
    exact Nat.le_trans ih (Nat.le_add_right _ _)

/-- Signs of callees can add to the depth of arguments, but no more than there are signs. -/
theorem printedExtent_le_negations (node : Node η) :
    node.printedExtent ≤ ⟨2 * node.height + node.preorder.countP isNegation,
      2 * node.height + node.preorder.countP isNegation⟩ := by
  induction node with
  | value => exact ⟨Nat.zero_le _, Nat.zero_le _⟩
  | binary op left right span ihl ihr =>
    rw [preorder, List.countP_cons_of_neg Bool.false_ne_true, List.countP_append]
    simp [printedExtent, signs, coreExtent, height, Depth.le_iff] at ihl ihr ⊢
    omega
  | negate operand span ih =>
    rw [preorder, List.countP_cons_of_pos rfl]
    simp [printedExtent, signs, coreExtent, height, Depth.le_iff] at ih ⊢
    omega
  | call callee arguments span ihc iha =>
    rw [preorder, List.countP_cons_of_neg Bool.false_ne_true, List.countP_append]
    have hs := callee.signs_le
    have ha : argumentsExtent arguments ≤
        ⟨2 * heightAll arguments + (preorderAll arguments).countP isNegation,
          2 * heightAll arguments + (preorderAll arguments).countP isNegation + 1⟩ :=
      argumentsExtent_le fun a ham => by
        have hle := iha a ham
        have hh := height_le_heightAll ham
        have hc := countP_le_preorderAll ham
        simp [Depth.le_iff] at hle hc ⊢
        omega
    simp [printedExtent, signs, coreExtent, height, Depth.le_iff] at ihc ha ⊢
    omega

/-! ## What is read as it was -/

theorem faithful_binary {op : Operator} {left right : Node η} {span : Option Span} :
    (binary op left right span).Faithful ↔ left.Faithful ∧ right.Faithful := by
  rw [Faithful, preorder, List.forall_mem_cons, List.forall_mem_append]
  exact ⟨fun h => h.2, fun h => ⟨⟨rfl, rfl⟩, h⟩⟩

theorem faithful_negate {operand : Node η} {span : Option Span} :
    (negate operand span).Faithful ↔ operand.Faithful := by
  rw [Faithful, preorder, List.forall_mem_cons]
  exact ⟨fun h => h.2, fun h => ⟨⟨rfl, rfl⟩, h⟩⟩

theorem faithful_call {callee : Node η} {arguments : List (Node η)} {span : Option Span} :
    (call callee arguments span).Faithful ↔
      callee.isNegation = false ∧ callee.Faithful ∧ ∀ a ∈ arguments, a.Faithful := by
  rw [Faithful, preorder, List.forall_mem_cons, List.forall_mem_append, forall_mem_preorderAll]
  exact ⟨fun h => ⟨h.1.1, h.2⟩, fun h => ⟨⟨h.1, rfl⟩, h.2⟩⟩

theorem faithful_signed {node : Node η} (h : node.Faithful) (count : Nat) :
    (signed count node).Faithful := by
  induction count with
  | zero => exact h
  | succ count ih => exact faithful_negate.mpr ih

theorem isNegation_core (node : Node η) : node.core.isNegation = false := by
  induction node with
  | value v span =>
    cases v with
    | number x =>
      rw [core]
      split <;> rfl
    | _ => rfl
  | binary | call => rfl
  | negate operand span ih => exact ih

theorem faithful_core (node : Node η) : node.core.Faithful := by
  induction node with
  | value v span =>
    cases v with
    | number x =>
      rw [core]
      split
      · exact List.forall_mem_singleton.mpr ⟨rfl, rfl⟩
      · next hx => exact List.forall_mem_singleton.mpr ⟨rfl, by simpa [isInfinite] using hx⟩
    | _ => exact List.forall_mem_singleton.mpr ⟨rfl, rfl⟩
  | binary op left right span ihl ihr =>
    exact faithful_binary.mpr ⟨faithful_signed ihl _, faithful_signed ihr _⟩
  | negate operand span ih => exact ih
  | call callee arguments span ihc iha =>
    refine faithful_call.mpr ⟨callee.isNegation_core, ihc, ?_⟩
    intro a ha
    obtain ⟨n, hn, rfl⟩ : ∃ n ∈ arguments, n.reread = a := by simpa using ha
    exact faithful_signed (iha n hn) _

theorem faithful_reread (node : Node η) : node.reread.Faithful :=
  faithful_signed node.faithful_core _

theorem faithful_of_bare {node : Node η} (h : node.bare.Faithful) : node.Faithful := by
  induction node with
  | value v span =>
    have hv : isInfinite (value v span) = false := by
      have hb : isInfinite (value v none) = false := (h _ List.mem_cons_self).2
      cases v <;> exact hb
    exact List.forall_mem_singleton.mpr ⟨rfl, hv⟩
  | binary op left right span ihl ihr =>
    obtain ⟨hl, hr⟩ := faithful_binary.mp h
    exact faithful_binary.mpr ⟨ihl hl, ihr hr⟩
  | negate operand span ih => exact faithful_negate.mpr (ih (faithful_negate.mp h))
  | call callee arguments span ihc iha =>
    obtain ⟨hn, hc, ha⟩ := faithful_call.mp h
    have hn' : callee.isNegation = false := by cases callee <;> first | rfl | cases hn
    refine faithful_call.mpr ⟨hn', ihc hc, ?_⟩
    intro a ham
    refine iha a ham (ha _ ?_)
    simpa using List.mem_map_of_mem ham

theorem reread_of_faithful {node : Node η} (h : node.Faithful) : node.reread = node.bare := by
  induction node with
  | value v span =>
    cases v with
    | number x =>
      have hx : x.isInf = false := (h _ List.mem_cons_self).2
      rw [reread, core, hx]
      rfl
    | _ => rfl
  | binary op left right span ihl ihr =>
    obtain ⟨hl, hr⟩ := faithful_binary.mp h
    rw [bare, ← ihl hl, ← ihr hr]
    rfl
  | negate operand span ih =>
    rw [bare, ← ih (faithful_negate.mp h)]
    rfl
  | call callee arguments span ihc iha =>
    obtain ⟨hn, hc, ha⟩ := faithful_call.mp h
    have hs : callee.signs = 0 := signs_eq_zero (fun n hm => (hc n hm).1) hn
    have hcore : callee.core = callee.bare := by
      rw [← ihc hc, reread, hs]
      rfl
    have hall : rereadAll arguments = bareAll arguments := by
      rw [rereadAll_eq_map, bareAll_eq_map]
      exact List.map_congr_left fun a ham => iha a ham (ha a ham)
    rw [reread, signs, hs, core, bare, hcore, hall]
    rfl

/-- Only a tree whose nodes are all printed faithfully is read as it was. -/
theorem reread_eq_bare_iff (node : Node η) : node.reread = node.bare ↔ node.Faithful := by
  constructor
  · intro h
    have hf := node.faithful_reread
    rw [h] at hf
    exact faithful_of_bare hf
  · exact reread_of_faithful

end Reckoner.Node
