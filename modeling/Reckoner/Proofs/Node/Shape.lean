import Mathlib.Data.List.Basic
import Mathlib.Tactic.Tauto
import Reckoner.Node.Order
import Reckoner.Proofs.Limits

/-! # Trees and their spans

Induction over trees, with a hypothesis for every argument of a call; how deep evaluation goes; and
the trees that differ from a given one in where they were read only: moved on as a whole, with
another span at the root, or without any spans.
-/
namespace Reckoner

def Span.moved (distance : Nat) (span : Span) : Span :=
  ⟨span.start + distance, span.stop + distance⟩

namespace Node
variable {η : Type}

@[induction_eliminator]
theorem induct {motive : Node η → Prop} (value : ∀ v span, motive (.value v span))
    (binary : ∀ op left right span, motive left → motive right →
      motive (.binary op left right span))
    (negate : ∀ operand span, motive operand → motive (.negate operand span))
    (call : ∀ callee arguments span, motive callee → (∀ a ∈ arguments, motive a) →
      motive (.call callee arguments span)) (node : Node η) : motive node :=
  @Node.rec η motive (fun nodes => ∀ n ∈ nodes, motive n) value binary negate call
    (fun _ h => absurd h List.not_mem_nil)
    (fun _ _ hn hns m h => (List.mem_cons.mp h).elim (fun he => he ▸ hn) (hns m)) node

/-- What goes from the children of each node to the node holds of every tree. -/
theorem induct_children {motive : Node η → Prop}
    (step : ∀ node, (∀ child ∈ node.children, motive child) → motive node) (node : Node η) :
    motive node := by
  induction node with
  | value v span => exact step _ (List.forall_mem_nil _)
  | binary op left right span ihl ihr =>
    exact step _ (List.forall_mem_cons.mpr ⟨ihl, List.forall_mem_singleton.mpr ihr⟩)
  | negate operand span ih => exact step _ (List.forall_mem_singleton.mpr ih)
  | call callee arguments span ihc iha => exact step _ (List.forall_mem_cons.mpr ⟨ihc, iha⟩)

/-- How deep a tree is, and how much of the stack it takes to evaluate it. -/
def extent (node : Node η) : Depth := ⟨node.height, node.places 2⟩

def extentAll (nodes : List (Node η)) : Depth := ⟨heightAll nodes, placesAll 2 nodes⟩

section Extent
variable {v : Value η} {op : Operator} {left right operand callee : Node η}
  {arguments : List (Node η)} {span : Option Span}

@[simp] theorem extent_value : (value v span).extent = 0 := rfl

@[simp] theorem extent_binary :
    (binary op left right span).extent = (max left.extent right.extent).below 2 := rfl

@[simp] theorem extent_negate : (negate operand span).extent = operand.extent.below 2 := rfl

@[simp] theorem extent_call :
    (call callee arguments span).extent =
      (max callee.extent (extentAll arguments)).below 2 := rfl

@[simp] theorem extentAll_nil : extentAll ([] : List (Node η)) = 0 := rfl

@[simp] theorem extentAll_cons {n : Node η} {ns : List (Node η)} :
    extentAll (n :: ns) = max n.extent.listed (extentAll ns) := rfl

theorem le_extentAll {n : Node η} (h : n ∈ arguments) : n.extent.listed ≤ extentAll arguments := by
  induction arguments with
  | nil => cases h
  | cons m ms ih =>
    rw [extentAll_cons]
    rcases List.mem_cons.mp h with rfl | h
    · exact Depth.le_max_left _ _
    · exact (ih h).trans (Depth.le_max_right _ _)

end Extent

mutual

/-- The same tree read so much further on. -/
def moved (distance : Nat) : Node η → Node η
  | .value v span => .value v (span.map (Span.moved distance))
  | .binary op left right span =>
    .binary op (left.moved distance) (right.moved distance) (span.map (Span.moved distance))
  | .negate operand span => .negate (operand.moved distance) (span.map (Span.moved distance))
  | .call callee arguments span =>
    .call (callee.moved distance) (movedAll distance arguments) (span.map (Span.moved distance))

def movedAll (distance : Nat) : List (Node η) → List (Node η)
  | [] => []
  | n :: ns => n.moved distance :: movedAll distance ns

end

@[simp] theorem movedAll_eq_map (distance : Nat) (nodes : List (Node η)) :
    movedAll distance nodes = nodes.map (moved distance) := by
  induction nodes with
  | nil => rfl
  | cons n ns ih => simp [movedAll, ih]

theorem moved_withSpan (distance : Nat) (node : Node η) (span : Span) :
    (node.withSpan (some span)).moved distance =
      (node.moved distance).withSpan (some (span.moved distance)) := by
  cases node <;> rfl

mutual

def bare : Node η → Node η
  | .value v _ => .value v none
  | .binary op left right _ => .binary op left.bare right.bare none
  | .negate operand _ => .negate operand.bare none
  | .call callee arguments _ => .call callee.bare (bareAll arguments) none

def bareAll : List (Node η) → List (Node η)
  | [] => []
  | n :: ns => n.bare :: bareAll ns

end

@[simp] theorem bareAll_eq_map (nodes : List (Node η)) : bareAll nodes = nodes.map bare := by
  induction nodes with
  | nil => rfl
  | cons n ns ih => simp [bareAll, ih]

@[simp] theorem bare_withSpan (node : Node η) (span : Option Span) :
    (node.withSpan span).bare = node.bare := by
  cases node <;> rfl

@[simp] theorem bare_moved (distance : Nat) (node : Node η) :
    (node.moved distance).bare = node.bare := by
  induction node with
  | value => rfl
  | binary _ _ _ _ ihl ihr => simp [moved, bare, ihl, ihr]
  | negate _ _ ih => simp [moved, bare, ih]
  | call callee arguments span ihc iha => simpa [moved, bare, ihc] using iha

@[simp] theorem extent_bare (node : Node η) : node.bare.extent = node.extent := by
  induction node with
  | value => rfl
  | binary _ _ _ _ ihl ihr => simp [bare, ihl, ihr]
  | negate _ _ ih => simp [bare, ih]
  | call callee arguments span ihc iha =>
    have ha : extentAll (arguments.map bare) = extentAll arguments := by
      clear ihc
      induction arguments with
      | nil => rfl
      | cons n ns ih =>
        obtain ⟨hn, hns⟩ := List.forall_mem_cons.mp iha
        simp [hn, ih hns]
    simp [bare, ihc, ha]

theorem preorder_eq (node : Node η) : node.preorder = node :: preorderAll node.children := by
  cases node <;> simp only [preorder, children, preorderAll, List.append_nil]

@[simp] theorem preorderAll_eq_flatMap (nodes : List (Node η)) :
    preorderAll nodes = nodes.flatMap preorder := by
  induction nodes with
  | nil => rfl
  | cons n ns ih => simp [preorderAll, ih]

@[simp] theorem children_bare (node : Node η) :
    node.bare.children = node.children.map bare := by
  cases node <;> simp [bare, children]

@[simp] theorem preorder_bare (node : Node η) :
    node.bare.preorder = node.preorder.map bare := by
  induction node using induct_children with
  | step node ih =>
    rw [preorder_eq, node.preorder_eq]
    simp [List.flatMap_map, List.map_flatMap, List.flatMap_congr ih]

/-- Where trees differ in their spans alone, so do the nodes at the same place. -/
theorem bare_eq_of_getElem? {root root' n m : Node η} (h : root.bare = root'.bare) {i : Nat}
    (hn : root.preorder[i]? = some n) (hm : root'.preorder[i]? = some m) : n.bare = m.bare := by
  have hi := congrArg (fun node => node.preorder[i]?) h
  simp only [preorder_bare, List.getElem?_map, hn, hm] at hi
  exact Option.some.inj hi

theorem mem_preorderAll {nodes : List (Node η)} {m : Node η} :
    m ∈ preorderAll nodes ↔ ∃ n ∈ nodes, m ∈ n.preorder := by
  simp

theorem preorder_subset {node child : Node η} (h : child ∈ node.children) :
    child.preorder ⊆ node.preorder := by
  intro n hn
  rw [node.preorder_eq]
  exact List.mem_cons_of_mem _ (mem_preorderAll.mpr ⟨child, h, hn⟩)

@[simp] theorem span_withSpan (node : Node η) (span : Option Span) :
    (node.withSpan span).span = span := by
  cases node <;> rfl

theorem preorder_withSpan (node : Node η) (span : Option Span) :
    (node.withSpan span).preorder = node.withSpan span :: node.preorder.tail := by
  cases node <;> rfl

theorem mem_preorder_withSpan {node n : Node η} {span : Option Span}
    (h : n ∈ (node.withSpan span).preorder) : n = node.withSpan span ∨ n ∈ node.preorder := by
  cases node <;> simp only [withSpan, preorder, List.mem_cons] at h ⊢ <;> tauto

end Node

end Reckoner
