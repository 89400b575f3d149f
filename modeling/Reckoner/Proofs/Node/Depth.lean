import Mathlib.Data.List.Forall2
import Reckoner.Node.Lowering
import Reckoner.Proofs.Node.Shape

/-! # Depth in the tree and depth in the phrase

Lowering counts every enclosing phrase, parentheses included, while parentheses leave no node. The
nodes of a tree, each with its depth in the tree, correspond one to one to the phrases that built
them, each with the depth at which it was lowered; and no node is deeper than its phrase.
-/
namespace Reckoner

namespace Node
variable {η : Type}

mutual

def placed (depth : Nat) : Node η → List (Nat × Node η)
  | .value v span => [(depth, .value v span)]
  | .binary op left right span =>
    (depth, .binary op left right span) ::
      (left.placed (depth + 1) ++ right.placed (depth + 1))
  | .negate operand span => (depth, .negate operand span) :: operand.placed (depth + 1)
  | .call callee arguments span =>
    (depth, .call callee arguments span) ::
      (callee.placed (depth + 1) ++ placedAll (depth + 1) arguments)

def placedAll (depth : Nat) : List (Node η) → List (Nat × Node η)
  | [] => []
  | n :: ns => n.placed depth ++ placedAll depth ns

end

@[simp] theorem placedAll_eq_flatMap (depth : Nat) (nodes : List (Node η)) :
    placedAll depth nodes = nodes.flatMap (placed depth) := by
  induction nodes with
  | nil => rfl
  | cons n ns ih => simp [placedAll, ih]

theorem placed_eq_cons (depth : Nat) (node : Node η) :
    node.placed depth = (depth, node) :: (node.placed depth).tail := by
  cases node <;> rfl

theorem placed_withSpan (depth : Nat) (node : Node η) (span : Option Span) :
    (node.withSpan span).placed depth =
      (depth, node.withSpan span) :: (node.placed depth).tail := by
  cases node <;> rfl

theorem heightAll_le {nodes : List (Node η)} {bound : Nat} (h : ∀ n ∈ nodes, n.height ≤ bound) :
    heightAll nodes ≤ bound := by
  induction nodes with
  | nil => exact Nat.zero_le bound
  | cons n ns ih =>
    obtain ⟨hn, hns⟩ := List.forall_mem_cons.mp h
    exact Nat.max_le.mpr ⟨hn, ih hns⟩

theorem height_le_of_placed {node : Node η} {depth bound : Nat}
    (h : ∀ a ∈ node.placed depth, a.1 ≤ bound) : depth + node.height ≤ bound := by
  induction node generalizing depth with
  | value v span => exact h _ List.mem_cons_self
  | binary op left right span ihl ihr =>
    rw [placed, List.forall_mem_cons, List.forall_mem_append] at h
    have hl := ihl h.2.1
    have hr := ihr h.2.2
    rw [height]
    omega
  | negate operand span ih =>
    rw [placed, List.forall_mem_cons] at h
    have ho := ih h.2
    rw [height]
    omega
  | call callee arguments span ihc iha =>
    rw [placed, List.forall_mem_cons, List.forall_mem_append, placedAll_eq_flatMap] at h
    have hc := ihc h.2.1
    have ha : heightAll arguments ≤ bound - (depth + 1) := heightAll_le fun a ham => by
      have hb := iha a ham fun b hb => h.2.2 b (List.mem_flatMap.mpr ⟨a, ham, hb⟩)
      omega
    rw [height]
    omega

end Node

mutual

/-- The phrases that build a node, in preorder, each with the depth at which it is lowered.
Parentheses count but build none; a list of arguments does not even count. -/
def Phrase.origins (depth : Depth) : Phrase → List (Depth × Phrase)
  | .node .parens _ (inner :: _) => inner.origins (depth.below 1)
  | .node (.binary op) bounds [left, right] =>
    (depth, .node (.binary op) bounds [left, right]) ::
      (left.origins (depth.below 1) ++ right.origins (depth.below 1))
  | .node .negate bounds (operand :: rest) =>
    (depth, .node .negate bounds (operand :: rest)) :: operand.origins (depth.below 1)
  | .node .call bounds [callee, .absent] =>
    (depth, .node .call bounds [callee, .absent]) :: callee.origins (depth.below 1)
  | .node .call bounds [callee, .node rule within arguments] =>
    (depth, .node .call bounds [callee, .node rule within arguments]) ::
      (callee.origins (depth.below 1) ++ originsAll (depth.below 2) arguments)
  | phrase => [(depth, phrase)]

def Phrase.originsAll (depth : Depth) : List Phrase → List (Depth × Phrase)
  | [] => []
  | phrase :: rest => phrase.origins depth ++ originsAll depth rest

end

namespace Node
variable {η : Type} {limits : Limits} {source : Text}

/-- A node, no deeper than the phrase it came from. The limit allows for the depth of the phrase,
which is lowered there to the node, with its own span or that of parentheses around it. -/
structure Comes (limits : Limits) (source : Text) (a : Nat × Node η) (b : Depth × Phrase) :
    Prop where
  depth_le : a.1 ≤ b.1.levels
  allowed : b.1.levels ≤ limits.nesting
  lowered : ∃ (node : Node η) (span : Option Span), lower limits source b.1 b.2 = .ok node ∧
    a.2 = node.withSpan span

@[simp] theorem withSpan_withSpan (node : Node η) (span span' : Option Span) :
    (node.withSpan span).withSpan span' = node.withSpan span' := by
  cases node <;> rfl

@[simp] theorem withSpan_span (node : Node η) : node.withSpan node.span = node := by
  cases node <;> rfl

theorem Comes.withSpan {place : Nat} {node : Node η} {b : Depth × Phrase}
    (h : Comes limits source (place, node) b) (span : Option Span) :
    Comes limits source (place, node.withSpan span) b := by
  obtain ⟨n, own, hl, hn⟩ := h.lowered
  change node = n.withSpan own at hn
  exact ⟨h.depth_le, h.allowed, n, span, hl, by rw [hn, withSpan_withSpan]⟩

theorem Comes.allowed_all {nodes : List (Nat × Node η)} {phrases : List (Depth × Phrase)}
    (h : List.Forall₂ (Comes limits source) nodes phrases) : ∀ a ∈ nodes, a.1 ≤ limits.nesting := by
  induction h with
  | nil => exact List.forall_mem_nil _
  | cons hab _ ih =>
    exact List.forall_mem_cons.mpr ⟨Nat.le_trans hab.depth_le hab.allowed, ih⟩

theorem place_eq_ok {bounds : Int × Int} {node result : Node η}
    (h : place source bounds node = .ok result) : ∃ span, result = node.withSpan span := by
  unfold place at h
  split at h
  · exact ⟨_, (Except.ok.inj h).symm⟩
  · cases h

theorem bind_eq_ok {ε α β : Type} {outcome : Except ε α} {next : α → Except ε β} {b : β}
    (h : (outcome >>= next) = .ok b) : ∃ a, outcome = .ok a ∧ next a = .ok b := by
  cases outcome with
  | error e => cases h
  | ok a => exact ⟨a, rfl, h⟩

/-- What a phrase must be to be lowered, and what it is lowered to. -/
inductive Lowered (limits : Limits) (source : Text) (depth : Depth) : Phrase → Node η → Prop
  | number {bounds : Option (Int × Int)} {parts : List Phrase} (x : Float) (span : Option Span) :
      Lowered limits source depth (.node .number bounds parts) (.value (.number x) span)
  | reference {bounds : Option (Int × Int)} {parts : List Phrase} (name : Text)
      (span : Option Span) :
      Lowered limits source depth (.node .reference bounds parts) (.value (.reference name) span)
  | binary {bounds : Option (Int × Int)} {op : Operator} {left right : Phrase} {l r : Node η}
      (span : Option Span) (hl : lower limits source (depth.below 1) left = .ok l)
      (hr : lower limits source (depth.below 1) right = .ok r) :
      Lowered limits source depth (.node (.binary op) bounds [left, right]) (.binary op l r span)
  | negate {bounds : Option (Int × Int)} {operand : Phrase} {rest : List Phrase} {n : Node η}
      (span : Option Span) (hn : lower limits source (depth.below 1) operand = .ok n) :
      Lowered limits source depth (.node .negate bounds (operand :: rest)) (.negate n span)
  | parens {bounds : Option (Int × Int)} {inner : Phrase} {rest : List Phrase} {n : Node η}
      (span : Option Span) (hn : lower limits source (depth.below 1) inner = .ok n) :
      Lowered limits source depth (.node .parens bounds (inner :: rest)) (n.withSpan span)
  | callNone {bounds : Option (Int × Int)} {callee : Phrase} {c : Node η} (span : Option Span)
      (hc : lower limits source (depth.below 1) callee = .ok c) :
      Lowered limits source depth (.node .call bounds [callee, .absent]) (.call c [] span)
  | call {bounds within : Option (Int × Int)} {callee : Phrase} {rule : Rule}
      {arguments : List Phrase} {c : Node η} {as : List (Node η)} (span : Option Span)
      (hc : lower limits source (depth.below 1) callee = .ok c)
      (ha : lowerAll limits source (depth.below 2) arguments = .ok as) :
      Lowered limits source depth (.node .call bounds [callee, .node rule within arguments])
        (.call c as span)

theorem lowered {depth : Depth} {phrase : Phrase} {node : Node η}
    (h : lower limits source depth phrase = .ok node) :
    depth.levels ≤ limits.nesting ∧ Lowered limits source depth phrase node := by
  unfold lower at h
  split at h
  · cases h
  · cases h
  · cases h
  · split at h
    · cases h
    · split at h
      · cases h
      · refine ⟨by omega, ?_⟩
        -- neither limit is exceeded here, so the rule and its parts decide
        split at h
        · obtain ⟨text, -, h⟩ := bind_eq_ok h
          split at h
          · obtain ⟨span, rfl⟩ := place_eq_ok h
            exact .number _ span
          · cases h
        · obtain ⟨name, -, h⟩ := bind_eq_ok h
          obtain ⟨span, rfl⟩ := place_eq_ok h
          exact .reference name span
        · obtain ⟨l, hl, h⟩ := bind_eq_ok h
          obtain ⟨r, hr, h⟩ := bind_eq_ok h
          obtain ⟨span, rfl⟩ := place_eq_ok h
          exact .binary span hl hr
        · obtain ⟨n, hn, h⟩ := bind_eq_ok h
          obtain ⟨span, rfl⟩ := place_eq_ok h
          exact .negate span hn
        · obtain ⟨n, hn, h⟩ := bind_eq_ok h
          obtain ⟨span, rfl⟩ := place_eq_ok h
          exact .parens span hn
        · obtain ⟨c, hc, h⟩ := bind_eq_ok h
          obtain ⟨span, rfl⟩ := place_eq_ok h
          exact .callNone span hc
        · obtain ⟨c, hc, h⟩ := bind_eq_ok h
          obtain ⟨as, ha, h⟩ := bind_eq_ok h
          obtain ⟨span, rfl⟩ := place_eq_ok h
          exact .call span hc ha
        · cases h
        · cases h
        · cases h

mutual

/-- Lowering gives every node a phrase that it came from, in order. -/
theorem lower_comes : (phrase : Phrase) → ∀ {depth : Depth} {place : Nat} {node : Node η},
    place ≤ depth.levels → lower limits source depth phrase = .ok node →
      List.Forall₂ (Comes limits source) (node.placed place) (phrase.origins depth)
  | phrase, depth, place, node, hle, h => by
    obtain ⟨hd, hb⟩ := lowered h
    have hroot : Comes limits source (place, node) (depth, phrase) :=
      ⟨hle, hd, node, node.span, h, node.withSpan_span.symm⟩
    have hnext : place + 1 ≤ depth.levels + 1 := Nat.succ_le_succ hle
    cases hb with
    | number x span => exact .cons hroot .nil
    | reference name span => exact .cons hroot .nil
    | binary span hl hr =>
      exact .cons hroot (List.rel_append (lower_comes _ hnext hl) (lower_comes _ hnext hr))
    | negate span hn => exact .cons hroot (lower_comes _ hnext hn)
    | @parens bounds inner rest n span hn =>
      -- the inner node takes the place of the parentheses, whose phrase is lost
      have hi := lower_comes inner (Nat.le_succ_of_le hle) hn
      rw [placed_eq_cons] at hi
      obtain ⟨first, rest, hfirst, hrest, he⟩ := List.forall₂_cons_left_iff.mp hi
      rw [placed_withSpan, Phrase.origins, he]
      exact .cons (hfirst.withSpan span) hrest
    | callNone span hc =>
      rw [placed, placedAll, List.append_nil]
      exact .cons hroot (lower_comes _ hnext hc)
    | call span hc ha =>
      exact .cons hroot (List.rel_append (lower_comes _ hnext hc) (lowerAll_comes _ hnext ha))
termination_by phrase => sizeOf phrase

theorem lowerAll_comes : (phrases : List Phrase) →
    ∀ {depth : Depth} {place : Nat} {nodes : List (Node η)},
    place ≤ depth.levels → lowerAll limits source depth phrases = .ok nodes →
      List.Forall₂ (Comes limits source) (placedAll place nodes)
        (Phrase.originsAll depth phrases)
  | [], depth, place, nodes, hle, h => by
    rw [lowerAll] at h
    cases h
    exact .nil
  | phrase :: rest, depth, place, nodes, hle, h => by
    rw [lowerAll] at h
    obtain ⟨n, hn, h⟩ := bind_eq_ok h
    obtain ⟨ns, hns, h⟩ := bind_eq_ok h
    cases h
    exact List.rel_append (lower_comes phrase hle hn) (lowerAll_comes rest hle hns)
termination_by phrases => sizeOf phrases

end

end Node
end Reckoner
