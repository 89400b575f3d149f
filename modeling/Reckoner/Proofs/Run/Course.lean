import Reckoner.Proofs.Run.Steps

/-! # The order of the steps

The steps of a tree invoke its calls in their order, each call after the calls in its callee and in
its arguments. A callee is checked right before its arguments, and a left operand right before the
right one. Whatever a step takes from the stack has been put there by the steps before it.
-/
namespace Reckoner
variable {η : Type}

namespace Node

mutual

def callNodes : Node η → List (Node η)
  | .value .. => []
  | .binary _ left right _ => left.callNodes ++ right.callNodes
  | .negate operand _ => operand.callNodes
  | .call callee arguments span =>
    callee.callNodes ++ (callNodesAll arguments ++ [.call callee arguments span])

def callNodesAll : List (Node η) → List (Node η)
  | [] => []
  | n :: ns => n.callNodes ++ callNodesAll ns

end

def arity : Node η → Nat
  | .call _ arguments _ => arguments.length
  | _ => 0

end Node

namespace Step

def node? : Step η → Option (Node η)
  | .invoke node => some node
  | _ => none

/-- A checked callee is followed by all of its arguments and then the invocation; a checked left
operand is followed by all of the right one. -/
def Ordered : List (Step η) → Prop
  | [] => True
  | .callee arguments :: more =>
    (∃ depth callee span rest, more = Node.stepsAll depth arguments ++
      .invoke (.call callee arguments span) :: rest) ∧ Ordered more
  | .left op operand :: more =>
    (∃ depth rest, more = operand.steps depth ++ .right op :: rest) ∧ Ordered more
  | _ :: more => Ordered more

theorem Ordered.after {before after : List (Step η)} (h : Ordered (before ++ after)) :
    Ordered after := by
  induction before with
  | nil => exact h
  | cons step before ih =>
    cases step with
    | left | callee => exact ih h.2
    | _ => exact ih h

/-- What the rest of the steps needs on the stack: for each cell, how many arguments it has
gathered if it is pending. -/
def Fits : List (Step η) → List (Option Nat) → Prop
  | [], _ => True
  | .enter _ :: more, shape => Fits more shape
  | .value _ :: more, shape => Fits more (none :: shape)
  | .left .. :: more, none :: shape => Fits more (none :: shape)
  | .right _ :: more, none :: none :: shape => Fits more (none :: shape)
  | .negate :: more, none :: shape => Fits more (none :: shape)
  | .callee _ :: more, none :: shape => Fits more (some 0 :: shape)
  | .argument :: more, none :: some count :: shape => Fits more (some (count + 1) :: shape)
  | .invoke node :: more, some count :: shape => count = node.arity ∧ Fits more (none :: shape)
  | .answer :: more, none :: shape => Fits more (none :: shape)
  | _, _ => False

end Step

def Cell.gathered : Cell η → Option Nat
  | .pending _ arguments => some arguments.length
  | _ => none

namespace Node
open Step (Ordered Fits node?)

theorem ordered_stepsAll {arguments : List (Node η)} (depth : Depth)
    (h : ∀ a ∈ arguments, ∀ (depth : Depth) {more : List (Step η)}, Ordered more →
      Ordered (a.steps depth ++ more)) {more : List (Step η)} (hm : Ordered more) :
    Ordered (stepsAll depth arguments ++ more) := by
  induction arguments with
  | nil => exact hm
  | cons n ns ih =>
    obtain ⟨hn, hns⟩ := List.forall_mem_cons.mp h
    simp only [stepsAll, List.append_assoc, List.cons_append]
    exact hn depth (ih hns)

theorem ordered_steps (node : Node η) (depth : Depth) {more : List (Step η)} (h : Ordered more) :
    Ordered (node.steps depth ++ more) := by
  induction node generalizing depth more with
  | value v span => exact h
  | binary op left right span ihl ihr =>
    simp only [steps, List.cons_append, List.append_assoc, List.nil_append]
    exact ihl (depth.below 2) ⟨⟨depth.below 2, more, rfl⟩, ihr (depth.below 2) h⟩
  | negate operand span ih =>
    simp only [steps, List.cons_append, List.append_assoc, List.nil_append]
    exact ih (depth.below 2) h
  | call callee arguments span ihc iha =>
    simp only [steps, List.cons_append, List.append_assoc, List.nil_append]
    exact ihc (depth.below 2)
      ⟨⟨depth.below 3, callee, span, more, rfl⟩, ordered_stepsAll (depth.below 3) iha h⟩

theorem fits_stepsAll {arguments : List (Node η)} (depth : Depth) (count : Nat)
    (h : ∀ a ∈ arguments, ∀ (depth : Depth) {more : List (Step η)} {shape : List (Option Nat)},
      Fits more (none :: shape) → Fits (a.steps depth ++ more) shape)
    {more : List (Step η)} {shape : List (Option Nat)}
    (hm : Fits more (some (count + arguments.length) :: shape)) :
    Fits (stepsAll depth arguments ++ more) (some count :: shape) := by
  induction arguments generalizing count with
  | nil => exact hm
  | cons n ns ih =>
    obtain ⟨hn, hns⟩ := List.forall_mem_cons.mp h
    simp only [stepsAll, List.append_assoc, List.cons_append]
    refine hn depth (ih (count + 1) hns ?_)
    rwa [Nat.add_assoc, Nat.add_comm 1]

theorem fits_steps (node : Node η) (depth : Depth) {more : List (Step η)}
    {shape : List (Option Nat)} (h : Fits more (none :: shape)) :
    Fits (node.steps depth ++ more) shape := by
  induction node generalizing depth more shape with
  | value v span => exact h
  | binary op left right span ihl ihr =>
    simp only [steps, List.cons_append, List.append_assoc, List.nil_append]
    exact ihl (depth.below 2) (ihr (depth.below 2) h)
  | negate operand span ih =>
    simp only [steps, List.cons_append, List.append_assoc, List.nil_append]
    exact ih (depth.below 2) h
  | call callee arguments span ihc iha =>
    simp only [steps, List.cons_append, List.append_assoc, List.nil_append]
    exact ihc (depth.below 2) (fits_stepsAll (depth.below 3) 0 iha ⟨Nat.zero_add _, h⟩)

theorem stepsAll_node? {arguments : List (Node η)} (depth : Depth)
    (h : ∀ a ∈ arguments, ∀ depth : Depth, (a.steps depth).filterMap node? = a.callNodes) :
    (stepsAll depth arguments).filterMap node? = callNodesAll arguments := by
  induction arguments with
  | nil => rfl
  | cons n ns ih =>
    obtain ⟨hn, hns⟩ := List.forall_mem_cons.mp h
    simp [stepsAll, callNodesAll, List.filterMap_cons, node?, hn depth, ih hns]

theorem steps_node? (node : Node η) (depth : Depth) :
    (node.steps depth).filterMap node? = node.callNodes := by
  induction node generalizing depth with
  | value v span => rfl
  | binary op left right span ihl ihr =>
    simp [steps, callNodes, List.filterMap_cons, node?, ihl (depth.below 2), ihr (depth.below 2)]
  | negate operand span ih =>
    simp [steps, callNodes, List.filterMap_cons, node?, ih (depth.below 2)]
  | call callee arguments span ihc iha =>
    simp [steps, callNodes, List.filterMap_cons, node?, ihc (depth.below 2),
      stepsAll_node? (depth.below 3) iha]

theorem course_node? (root : Node η) : root.course.filterMap node? = root.callNodes := by
  rw [course, List.filterMap_append, steps_node?]
  exact List.append_nil _

theorem ordered_course (root : Node η) : Ordered root.course :=
  root.ordered_steps 0 trivial

theorem fits_course (root : Node η) : Fits root.course [] :=
  root.fits_steps 0 trivial

end Node

end Reckoner
