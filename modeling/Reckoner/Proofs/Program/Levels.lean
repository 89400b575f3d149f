import Reckoner.Proofs.Node.Levels
import Reckoner.Proofs.Program.Locations

/-! # Levels of a program

The nodes of a compiled program that stand at one depth come in the order in which they were read:
each ends before the next one starts, for so do the children of a node, and children stay inside
their parents.
-/
namespace Reckoner

/-- The one was read before the other. -/
def Node.Leads {η : Type} (a b : Node η) : Prop :=
  ∃ left right : Span, a.span = some left ∧ b.span = some right ∧ left.stop ≤ right.start

namespace Program
variable {η : Type}

namespace Charted
variable {program : Program η} (hc : program.Charted)
include hc

theorem leads_children {a b m n : Node η} (ha : a ∈ program.root.preorder)
    (hb : b ∈ program.root.preorder) (h : a.Leads b) (hm : m ∈ a.children) (hn : n ∈ b.children) :
    m.Leads n := by
  obtain ⟨left, right, hl, hr, hle⟩ := h
  obtain ⟨s, outer, hs, ho, hi⟩ := hc.children a ha m hm
  obtain ⟨t, outer', ht, ho', hi'⟩ := hc.children b hb n hn
  rw [hl] at ho
  rw [hr] at ho'
  cases ho
  cases ho'
  exact ⟨s, t, hs, ht, Nat.le_trans hi.stop_le (Nat.le_trans hle hi'.start_le)⟩

theorem nextLevel_leads {level : List (Node η)} (hl : level ⊆ program.root.preorder)
    (h : level.Pairwise Node.Leads) : (Node.nextLevel level).Pairwise Node.Leads := by
  rw [Node.nextLevel, List.pairwise_flatMap]
  refine ⟨fun n hn => hc.siblings n (hl hn), ?_⟩
  exact h.imp_of_mem fun ha hb hab m hm n hn => hc.leads_children (hl ha) (hl hb) hab hm hn

theorem nextLevels_leads (depth : Nat) :
    (Node.nextLevel^[depth] [program.root]).Pairwise Node.Leads := by
  induction depth with
  | zero => exact List.pairwise_singleton _ _
  | succ depth ih =>
    rw [Function.iterate_succ_apply']
    exact hc.nextLevel_leads (Node.nextLevels_subset depth program.root) ih

theorem start_lt {a b : Node η} (ha : a ∈ program.root.preorder) (h : a.Leads b) :
    ∃ left right : Span, a.span = some left ∧ b.span = some right ∧ left.start < right.start := by
  obtain ⟨left, right, hl, hr, hle⟩ := h
  obtain ⟨span, hs, hlt, -⟩ := hc.node a ha
  rw [hl] at hs
  cases hs
  exact ⟨left, right, hl, hr, Nat.lt_of_lt_of_le hlt hle⟩

/-- Nodes at one depth start one after the other. -/
theorem level_increases {level : List (Node η)} (h : level ∈ program.root.levels) :
    level.Pairwise fun a b => ∃ left right : Span,
      a.span = some left ∧ b.span = some right ∧ left.start < right.start := by
  rw [Node.levels, Node.levelsFrom_eq] at h
  obtain ⟨depth, -, rfl⟩ := List.mem_map.mp h
  have hl := Node.nextLevels_subset depth program.root
  exact (hc.nextLevels_leads depth).imp_of_mem fun ha _ hab => hc.start_lt (hl ha) hab

end Charted

/-- A queue that starts with the root of a tree is empty after as many turns as the tree has nodes,
and not before. It gives each node of the preorder that the lines of a dump have once, level by
level: first the root, then the children of the nodes of each level in order, so that a level is
what stands at its depth from left to right. In a program the nodes of a level start one after the
other. -/
theorem nodes_by_level :
    (∀ root : Node η,
      (∀ count, Node.turn^[count] [root] = [] ↔ root.size ≤ count) ∧
      (∀ count, (Node.turn^[count] [root]).head? = root.breadthFirst[count]?) ∧
      root.breadthFirst.length = root.size ∧
      root.breadthFirst.Perm root.preorder ∧
      Node.dumpLines 0 root = (root.placed 0).map (fun a => Node.line a.1 a.2) ∧
      (root.placed 0).map Prod.snd = root.preorder ∧
      root.breadthFirst = root.levels.flatten ∧
      root.levels.head? = some [root] ∧
      root.levels.IsChain (fun upper lower => lower = upper.flatMap Node.children) ∧
      root.levels =
        (List.range (root.height + 1)).map fun depth => Node.atDepth depth (root.placed 0)) ∧
    ∀ (limits : Limits) (source : Source) (program : Program η),
      compile limits source = .ok program → program.nodes = program.root.levels.flatten ∧
        ∀ level ∈ program.root.levels, level.Pairwise fun a b => ∃ left right : Span,
          a.span = some left ∧ b.span = some right ∧ left.start < right.start := by
  refine ⟨fun root => ?_, fun limits source program h => ?_⟩
  · have hsize : Node.sizeAll [root] = root.size := Nat.add_zero _
    refine ⟨fun count => ?_, fun count => Node.head?_turns count [root], ?_, ?_,
      Node.dumpLines_eq 0 root, Node.map_snd_placed 0 root, root.breadthFirst_eq_levels, rfl,
      root.isChain_levels, root.levels_eq⟩
    · rw [Node.turns_eq_nil_iff, hsize]
    · rw [Node.breadthFirst, Node.length_visit, hsize]
    · have hp := Node.visit_perm [root]
      rwa [Node.preorderAll, Node.preorderAll, List.append_nil] at hp
  · obtain ⟨d, hd, -, hp⟩ := compile_eq_ok_iff.mp (compile_source h)
    have hc : program.Charted := by
      rw [hp]
      exact charted_tree hd
    exact ⟨program.root.breadthFirst_eq_levels, fun level hl => hc.level_increases hl⟩

end Program

end Reckoner
