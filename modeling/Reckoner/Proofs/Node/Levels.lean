import Mathlib.Logic.Function.Iterate
import Reckoner.Node.Printer
import Reckoner.Proofs.Node.Reread

/-! # Levels of a tree

A queue that starts with the root holds, at any moment, the rest of one level and after it the
children of those nodes of the level that have been taken. So the nodes come level by level, each
level from left to right, and after as many turns as there are nodes none is left.
-/
namespace Reckoner.Node
variable {η : Type}

/-! ## Turns of the queue -/

/-- The queue after its first node has been taken. -/
def turn : List (Node η) → List (Node η)
  | [] => []
  | n :: queue => queue ++ n.children

@[simp] theorem turn_nil : turn ([] : List (Node η)) = [] := rfl

@[simp] theorem turn_cons (n : Node η) (queue : List (Node η)) :
    turn (n :: queue) = queue ++ n.children := rfl

@[simp] theorem visit_nil : visit ([] : List (Node η)) = [] := by rw [visit]

@[simp] theorem visit_cons (n : Node η) (queue : List (Node η)) :
    visit (n :: queue) = n :: visit (queue ++ n.children) := by rw [visit]

@[simp] theorem nextLevel_nil : nextLevel ([] : List (Node η)) = [] := rfl

@[simp] theorem nextLevel_cons (n : Node η) (level : List (Node η)) :
    nextLevel (n :: level) = n.children ++ nextLevel level := List.flatMap_cons

@[simp] theorem sizeAll_nil : sizeAll ([] : List (Node η)) = 0 := rfl

@[simp] theorem sizeAll_cons (n : Node η) (queue : List (Node η)) :
    sizeAll (n :: queue) = sizeAll queue + sizeAll n.children + 1 := by
  rw [sizeAll, size_eq]
  omega

/-- Each turn takes one node, so the queue is empty after as many turns as there are nodes. -/
theorem turns_eq_nil_iff (count : Nat) (queue : List (Node η)) :
    turn^[count] queue = [] ↔ sizeAll queue ≤ count := by
  induction count generalizing queue with
  | zero => cases queue <;> simp
  | succ count ih => cases queue <;> simp [ih]

theorem head?_turns (count : Nat) (queue : List (Node η)) :
    (turn^[count] queue).head? = (visit queue)[count]? := by
  induction count generalizing queue with
  | zero => cases queue <;> simp
  | succ count ih => cases queue <;> simp [ih]

theorem length_visit (queue : List (Node η)) : (visit queue).length = sizeAll queue := by
  fun_induction visit queue with
  | case1 => rfl
  | case2 n queue ih => simp [ih]

theorem visit_perm (queue : List (Node η)) : (visit queue).Perm (preorderAll queue) := by
  fun_induction visit queue with
  | case1 => exact .nil
  | case2 n queue ih =>
    simp only [preorderAll_eq_flatMap, List.flatMap_append] at ih
    rw [preorderAll, preorder_eq, List.cons_append, preorderAll_eq_flatMap, preorderAll_eq_flatMap]
    exact (ih.trans List.perm_append_comm).cons n

/-! ## Levels -/

/-- The front of the queue is taken before the children that it leaves behind. -/
theorem visit_append (front back : List (Node η)) :
    visit (front ++ back) = front ++ visit (back ++ nextLevel front) := by
  induction front generalizing back with
  | nil => simp
  | cons n front ih => simp [ih]

theorem height_lt_of_mem {node child : Node η} (h : child ∈ node.children) :
    child.height < node.height := by
  cases node with
  | value => cases h
  | binary op left right span =>
    rw [height]
    rcases List.mem_cons.mp h with rfl | h
    · omega
    · rw [List.mem_singleton.mp h]
      omega
  | negate operand span =>
    rw [height, List.mem_singleton.mp h]
    exact Nat.lt_succ_self _
  | call callee arguments span =>
    rw [height]
    rcases List.mem_cons.mp h with rfl | h
    · omega
    · have hle := height_le_heightAll h
      omega

/-- The levels are complete if they are as many as the trees are high. -/
theorem visit_eq_flatten {count : Nat} {level : List (Node η)} (h : ∀ n ∈ level, n.height < count) :
    visit level = (levelsFrom count level).flatten := by
  induction count generalizing level with
  | zero =>
    have hl : level = [] :=
      List.eq_nil_iff_forall_not_mem.mpr fun n hn => Nat.not_lt_zero _ (h n hn)
    simp [hl, levelsFrom]
  | succ count ih =>
    have hnext : ∀ n ∈ nextLevel level, n.height < count := by
      intro n hn
      obtain ⟨m, hm, hc⟩ := List.mem_flatMap.mp hn
      exact Nat.lt_of_lt_of_le (height_lt_of_mem hc) (Nat.le_of_lt_succ (h m hm))
    have hv := visit_append level []
    simp only [List.append_nil, List.nil_append] at hv
    simp [hv, ih hnext, levelsFrom]

theorem breadthFirst_eq_levels (root : Node η) : root.breadthFirst = root.levels.flatten :=
  visit_eq_flatten (List.forall_mem_singleton.mpr (Nat.lt_succ_self _))

theorem levelsFrom_eq (count : Nat) (level : List (Node η)) :
    levelsFrom count level = (List.range count).map fun depth => nextLevel^[depth] level := by
  induction count generalizing level with
  | zero => rfl
  | succ count ih =>
    rw [levelsFrom, ih, List.range_succ_eq_map, List.map_cons, List.map_map]
    rfl

theorem isChain_levelsFrom (count : Nat) (level : List (Node η)) :
    (levelsFrom count level).IsChain fun upper lower => lower = upper.flatMap children := by
  induction count generalizing level with
  | zero => exact .nil
  | succ count ih =>
    cases count with
    | zero => exact .singleton _
    | succ count => exact .cons_cons rfl (ih (nextLevel level))

theorem isChain_levels (root : Node η) :
    root.levels.IsChain fun upper lower => lower = upper.flatMap children :=
  isChain_levelsFrom _ _

/-! ## Depths -/

theorem placed_eq (depth : Nat) (node : Node η) :
    node.placed depth = (depth, node) :: placedAll (depth + 1) node.children := by
  cases node <;> simp [placed, children]

/-- A walk that takes each node before the trees of its children goes through the nodes as they are
placed. -/
theorem map_placed {α : Type} {entry : Nat × Node η → α} {walk : Nat → Node η → List α}
    (h : ∀ depth node, walk depth node =
      entry (depth, node) :: node.children.flatMap (walk (depth + 1))) (depth : Nat)
    (node : Node η) : (node.placed depth).map entry = walk depth node := by
  induction node using induct_children generalizing depth with
  | step node ih =>
    have hc : (placedAll (depth + 1) node.children).map entry =
        node.children.flatMap (walk (depth + 1)) := by
      rw [placedAll_eq_flatMap, List.map_flatMap]
      exact List.flatMap_congr fun child hm => ih child hm (depth + 1)
    rw [placed_eq, List.map_cons, hc, h]

theorem map_snd_placed (depth : Nat) (node : Node η) :
    (node.placed depth).map Prod.snd = node.preorder := by
  apply map_placed fun _ node => ?_
  simp [preorder_eq node]

@[simp] theorem dumpLinesAll_eq_flatMap (depth : Nat) (nodes : List (Node η)) :
    dumpLinesAll depth nodes = nodes.flatMap (dumpLines depth) := by
  induction nodes with
  | nil => rfl
  | cons n ns ih => simp [dumpLinesAll, ih]

theorem dumpLines_eq (depth : Nat) (node : Node η) :
    dumpLines depth node = (node.placed depth).map fun a => line a.1 a.2 := by
  refine (map_placed (fun depth node => ?_) depth node).symm
  cases node <;> simp [dumpLines, children]

theorem placed_depth {depth : Nat} {node : Node η} {a : Nat × Node η} (h : a ∈ node.placed depth) :
    depth ≤ a.1 := by
  induction node using induct_children generalizing depth with
  | step node ih =>
    rw [placed_eq, List.mem_cons, placedAll_eq_flatMap, List.mem_flatMap] at h
    rcases h with rfl | ⟨child, hm, h⟩
    · exact Nat.le_refl _
    · exact Nat.le_of_succ_le (ih child hm h)

def atDepth (depth : Nat) (nodes : List (Nat × Node η)) : List (Node η) :=
  nodes.filterMap fun a => if a.1 = depth then some a.2 else none

@[simp] theorem atDepth_nil (depth : Nat) : atDepth depth ([] : List (Nat × Node η)) = [] := rfl

@[simp] theorem atDepth_cons (depth place : Nat) (node : Node η) (more : List (Nat × Node η)) :
    atDepth depth ((place, node) :: more) =
      if place = depth then node :: atDepth depth more else atDepth depth more := by
  by_cases h : place = depth <;> simp [atDepth, h]

@[simp] theorem atDepth_append (depth : Nat) (front back : List (Nat × Node η)) :
    atDepth depth (front ++ back) = atDepth depth front ++ atDepth depth back :=
  List.filterMap_append

@[simp] theorem atDepth_flatMap {α : Type} (depth : Nat) (f : α → List (Nat × Node η))
    (as : List α) : atDepth depth (as.flatMap f) = as.flatMap fun a => atDepth depth (f a) := by
  induction as with
  | nil => rfl
  | cons a as ih => simp [ih]

theorem atDepth_below {depth place : Nat} (h : depth ≠ place) (node : Node η) :
    atDepth depth (node.placed place) = atDepth depth (placedAll (place + 1) node.children) := by
  simp [placed_eq place node, h.symm]

theorem atDepth_place (place : Nat) (node : Node η) :
    atDepth place (node.placed place) = [node] := by
  have hb : ∀ a ∈ placedAll (place + 1) node.children,
      (if a.1 = place then some a.2 else none) = none := by
    intro a ha
    rw [placedAll_eq_flatMap] at ha
    obtain ⟨n, -, ha⟩ := List.mem_flatMap.mp ha
    exact if_neg (Nat.ne_of_gt (placed_depth ha))
  rw [placed_eq, atDepth_cons, if_pos rfl, atDepth, List.filterMap_eq_nil_iff.mpr hb]

/-- So many levels down stand the nodes that are so much deeper. -/
theorem nextLevels_eq (count place : Nat) (level : List (Node η)) :
    nextLevel^[count] level = atDepth (place + count) (placedAll place level) := by
  induction count generalizing place level with
  | zero => simp [atDepth_place]
  | succ count ih =>
    have hn : place + (count + 1) ≠ place := by omega
    have hp : place + 1 + count = place + (count + 1) := by omega
    rw [Function.iterate_succ_apply, ih (place + 1), hp]
    simp [nextLevel, List.flatMap_assoc, atDepth_below hn]

theorem atDepth_subset (depth : Nat) (nodes : List (Nat × Node η)) :
    atDepth depth nodes ⊆ nodes.map Prod.snd := by
  intro n hn
  obtain ⟨a, ha, he⟩ := List.mem_filterMap.mp hn
  split at he
  · rw [← Option.some.inj he]
    exact List.mem_map_of_mem ha
  · cases he

theorem nextLevels_subset (depth : Nat) (root : Node η) :
    nextLevel^[depth] [root] ⊆ root.preorder := by
  rw [nextLevels_eq depth 0, ← root.map_snd_placed 0]
  simpa using atDepth_subset depth (root.placed 0)

/-- The levels are the nodes at each depth, from the root down to the deepest ones. -/
theorem levels_eq (root : Node η) :
    root.levels =
      (List.range (root.height + 1)).map fun depth => atDepth depth (root.placed 0) := by
  rw [levels, levelsFrom_eq]
  refine List.map_congr_left fun depth _ => ?_
  simp [nextLevels_eq depth 0]

end Reckoner.Node
