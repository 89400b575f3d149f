import Reckoner.Node

/-! # Orders of nodes

`preorder` lists a node before its children, `levels` lists the nodes at each depth from left to
right, and `breadthFirst` works through a queue that starts with the root and takes the children
of each node at its end.
-/
namespace Reckoner.Node
variable {η : Type}

mutual

def preorder : Node η → List (Node η)
  | .value v span => [.value v span]
  | .binary op left right span => .binary op left right span :: (left.preorder ++ right.preorder)
  | .negate operand span => .negate operand span :: operand.preorder
  | .call callee arguments span =>
    .call callee arguments span :: (callee.preorder ++ preorderAll arguments)

def preorderAll : List (Node η) → List (Node η)
  | [] => []
  | n :: ns => n.preorder ++ preorderAll ns

end

def nextLevel (level : List (Node η)) : List (Node η) := level.flatMap children

/-- The nodes of a level and of those below it, `count` levels in all. -/
def levelsFrom : Nat → List (Node η) → List (List (Node η))
  | 0, _ => []
  | count + 1, level => level :: levelsFrom count (nextLevel level)

def levels (root : Node η) : List (List (Node η)) := levelsFrom (root.height + 1) [root]

@[simp] theorem sizeAll_append (ns ms : List (Node η)) :
    sizeAll (ns ++ ms) = sizeAll ns + sizeAll ms := by
  induction ns with
  | nil => simp [sizeAll]
  | cons n ns ih => simp [sizeAll, ih, Nat.add_assoc]

theorem size_eq (node : Node η) : node.size = sizeAll node.children + 1 := by
  cases node <;> simp [size, children, sizeAll]

/-- Works through a queue. Its total size shrinks by one with each node taken. -/
def visit : List (Node η) → List (Node η)
  | [] => []
  | n :: queue => n :: visit (queue ++ n.children)
termination_by queue => sizeAll queue
decreasing_by simp [sizeAll, sizeAll_append, size_eq n]; omega

def breadthFirst (root : Node η) : List (Node η) := visit [root]

end Reckoner.Node
