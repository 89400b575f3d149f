import Reckoner.Proofs.Program.Locations

/-! # The productions of a phrase

Operands, callees, arguments and what stands in parentheses are productions of their own, one level
deeper than the production they are part of. Listed in preorder, productions of the same level start
further and further to the right, so the first that is a level too deep is the leftmost at its
level. That is where lowering complains, unless it has exhausted the stack by then.
-/
namespace Reckoner

/-- A rule where it is applied in a phrase. -/
structure Production where
  depth : Depth
  rule : Rule
  bounds : Option (Int × Int)
  deriving DecidableEq

namespace Production

def start? (p : Production) : Option Int := p.bounds.map Prod.fst

def exceeds (limits : Limits) (p : Production) : Bool := !decide (limits.Allow p.depth)

@[simp] theorem exceeds_iff {limits : Limits} {p : Production} :
    p.exceeds limits = true ↔ ¬limits.Allow p.depth := by
  simp [exceeds]

def Before (p q : Production) : Prop :=
  ∃ i j, p.start? = some i ∧ q.start? = some j ∧ i < j

/-- The leftmost of the productions of a level. -/
structure Leftmost (productions : List Production) (level : Nat) (p : Production) : Prop where
  mem : p ∈ productions
  level_eq : p.depth.levels = level
  before : ∀ q ∈ productions, q.depth.levels = level → q ≠ p → p.Before q

/-- The first production beyond the limits, if there is one, is one level too deep at most, and is
the obstacle that is found. -/
def Finds (limits : Limits) (productions : List Production) (found : Option Obstacle) : Prop :=
  Option.Rel (fun p obstacle => p.depth.levels ≤ limits.nesting + 1 ∧
      ∃ t : Token, p.start? = some (t.start : Int) ∧ limits.obstacle p.depth t = some obstacle)
    (productions.find? (exceeds limits)) found

theorem Finds.cons {limits : Limits} {p : Production} {rest : List Production} {t : Token}
    {found : Option Obstacle} (hd : p.depth.levels ≤ limits.nesting + 1)
    (hs : p.start? = some (t.start : Int))
    (hr : p.depth.levels ≤ limits.nesting → Finds limits rest found) :
    Finds limits (p :: rest) ((limits.obstacle p.depth t).or found) := by
  unfold Finds
  cases ho : limits.obstacle p.depth t with
  | some obstacle =>
    have hn : ¬limits.Allow p.depth := fun ha => by
      rw [Limits.obstacle_eq_none_iff.mpr ha] at ho
      cases ho
    rw [List.find?_cons_of_pos (exceeds_iff.mpr hn)]
    exact .some ⟨hd, t, hs, ho⟩
  | none =>
    have ha := Limits.obstacle_eq_none_iff.mp ho
    rw [List.find?_cons_of_neg fun h => exceeds_iff.mp h ha]
    exact hr ha.1

theorem Finds.append {limits : Limits} {before after : List Production} {a b : Option Obstacle}
    (hb : Finds limits before a) (ha : Finds limits after b) :
    Finds limits (before ++ after) (a.or b) := by
  unfold Finds at hb ⊢
  rw [List.find?_append]
  generalize before.find? (exceeds limits) = found at hb
  cases hb with
  | none => exact ha
  | some h => exact .some h

/-- What comes later is deeper or starts further to the right. -/
def Ordered (productions : List Production) : Prop :=
  productions.Pairwise fun p q => p.depth.levels < q.depth.levels ∨ p.Before q

theorem Ordered.cons {p : Production} {rest : List Production}
    (h : ∀ q ∈ rest, p.depth.levels + 1 ≤ q.depth.levels) (hr : Ordered rest) :
    Ordered (p :: rest) :=
  List.pairwise_cons.mpr ⟨fun q hq => .inl (h q hq), hr⟩

/-- The first production beyond the limits is the leftmost of its level, if it is a level too
deep. -/
theorem Ordered.leftmost {productions : List Production} {limits : Limits} {p : Production}
    (ho : Ordered productions) (hp : productions.find? (exceeds limits) = some p)
    (hd : p.depth.levels = limits.nesting + 1) :
    Leftmost productions (limits.nesting + 1) p := by
  obtain ⟨-, earlier, later, rfl, he⟩ := List.find?_eq_some_iff_append.mp hp
  refine ⟨by simp, hd, fun q hq hqd hne => ?_⟩
  -- none before it is beyond the limits, and those after it are in order
  rcases List.mem_append.mp hq with hq | hq
  · have hn := he q hq
    rw [Bool.not_eq_true', ← Bool.not_eq_true, exceeds_iff, not_not] at hn
    have hle := hn.1
    omega
  · have hlater : q ∈ later := (List.mem_cons.mp hq).resolve_left hne
    have hpq := (List.pairwise_cons.mp (List.pairwise_append.mp ho).2.1).1 q hlater
    exact hpq.resolve_left (by omega)

end Production

open Production (Finds Ordered)

mutual

/-- The productions of a phrase in preorder. The list that arguments are in is none, but takes a
place. -/
def Phrase.productions (depth : Depth) : Phrase → List Production
  | .leaf .. => []
  | .absent => []
  | .node .arguments _ parts => productionsAll depth.listed parts
  | .node rule bounds parts => ⟨depth, rule, bounds⟩ :: productionsAll (depth.below 1) parts

def Phrase.productionsAll (depth : Depth) : List Phrase → List Production
  | [] => []
  | phrase :: rest => phrase.productions depth ++ productionsAll depth rest

end

namespace Phrase
variable {depth : Depth}

theorem productionsAll_append (before after : List Phrase) :
    productionsAll depth (before ++ after) =
      productionsAll depth before ++ productionsAll depth after := by
  induction before with
  | nil => rfl
  | cons phrase rest ih =>
    rw [List.cons_append, productionsAll, productionsAll, ih, List.append_assoc]

theorem productionsAll_singleton (phrase : Phrase) :
    productionsAll depth [phrase] = phrase.productions depth := by
  rw [productionsAll, productionsAll, List.append_nil]

end Phrase

namespace Derivation

/-- The production that a derivation ends in, over all of its tokens. -/
def production {level : Level} (d : Derivation (.expression level)) (depth : Depth)
    (rule : Rule) : Production := ⟨depth, rule, some (d.piece.start, d.piece.stop)⟩

theorem production_start? {level : Level} (d : Derivation (.expression level)) (depth : Depth)
    (rule : Rule) : (d.production depth rule).start? = some (d.firstToken.start : Int) := by
  rw [← d.piece_bounds.1]
  rfl

def productions (depth : Depth) : {c : Category} → Derivation c → List Production
  | _, d@(number ..) => [d.production depth .number]
  | _, d@(name ..) => [d.production depth .reference]
  | _, d@(parens _ inner _ _ _) => d.production depth .parens :: inner.productions (depth.below 1)
  | _, atom d | _, applied d | _, unary d | _, product d | _, first d => d.productions depth
  | _, d@(callNone callee _ _ _ _) => d.production depth .call :: callee.productions (depth.below 1)
  | _, d@(call callee _ arguments _ _ _) => d.production depth .call ::
      (callee.productions (depth.below 1) ++ arguments.productions (depth.below 2))
  | _, d@(negate _ operand _) => d.production depth .negate :: operand.productions (depth.below 1)
  | _, d@(multiply op left _ right _ _) => d.production depth (.binary op) ::
      (left.productions (depth.below 1) ++ right.productions (depth.below 1))
  | _, d@(add op left _ right _ _) => d.production depth (.binary op) ::
      (left.productions (depth.below 1) ++ right.productions (depth.below 1))
  | _, next before _ d _ => before.productions depth ++ d.productions depth

def listing (depth : Depth) : {c : Category} → Derivation c → List Production
  | .expression _, d => d.piece.phrase.productions depth
  | .arguments, d => Phrase.productionsAll depth (d.piece.map Piece.phrase)

theorem listing_eq : {c : Category} → (d : Derivation c) → (depth : Depth) →
    d.listing depth = d.productions depth
  | _, number .., depth | _, name .., depth => rfl
  | _, atom d, depth | _, applied d, depth | _, unary d, depth | _, product d, depth =>
    d.listing_eq depth
  | _, parens _ part _ _ _, depth | _, negate _ part _, depth => by
    rw [productions, ← part.listing_eq]
    exact congrArg (List.cons _) (Phrase.productionsAll_singleton _)
  | _, callNone callee _ _ _ _, depth => by
    rw [productions, ← callee.listing_eq]
    exact congrArg (List.cons _) (List.append_nil _)
  | _, call callee _ arguments _ _ _, depth => by
    obtain ⟨bounds, ha⟩ := arguments.argumentList_piece
    rw [productions, ← callee.listing_eq, ← arguments.listing_eq]
    change _ :: Phrase.productionsAll _ [_, Piece.argumentList _] = _
    rw [ha, Phrase.productionsAll, Phrase.productionsAll_singleton, Phrase.productions]
    rfl
  | _, multiply _ left _ right _ _, depth | _, add _ left _ right _ _, depth => by
    rw [productions, ← left.listing_eq, ← right.listing_eq]
    exact congrArg (List.cons _) (congrArg (_ ++ ·) (Phrase.productionsAll_singleton _))
  | _, first d, depth => by
    rw [productions, ← d.listing_eq]
    exact Phrase.productionsAll_singleton _
  | _, next before _ d _, depth => by
    rw [productions, ← before.listing_eq, ← d.listing_eq]
    change Phrase.productionsAll depth ((before.piece ++ [d.piece]).map Piece.phrase) = _
    rw [List.map_append, Phrase.productionsAll_append]
    exact congrArg (_ ++ ·) (Phrase.productionsAll_singleton _)

/-- The first production beyond the limits is where lowering complains. -/
theorem finds_excess {limits : Limits} : {c : Category} → (d : Derivation c) → {depth : Depth} →
    depth.levels ≤ limits.nesting + 1 → Finds limits (d.productions depth) (d.excess limits depth)
  | _, number _ _, depth, hd | _, name _ _, depth, hd => by
    rw [excess, ← Option.or_none (o := limits.obstacle depth _)]
    exact .cons hd (production_start? _ _ _) fun _ => .none
  | _, atom d, _, hd | _, applied d, _, hd | _, unary d, _, hd
  | _, product d, _, hd | _, first d, _, hd => d.finds_excess hd
  | _, parens _ part _ _ _, _, hd | _, callNone part _ _ _ _, _, hd | _, negate _ part _, _, hd =>
    .cons hd (production_start? _ _ _) fun h => part.finds_excess (Nat.succ_le_succ h)
  | _, call left _ right _ _ _, _, hd | _, multiply _ left _ right _ _, _, hd
  | _, add _ left _ right _ _, _, hd =>
    .cons hd (production_start? _ _ _) fun h =>
      (left.finds_excess (Nat.succ_le_succ h)).append (right.finds_excess (Nat.succ_le_succ h))
  | _, next before _ d _, _, hd => (before.finds_excess hd).append (d.finds_excess hd)

/-- A production of a derivation at a depth is no less deep, each level further in takes two places
at most, and one of the tokens starts it. -/
structure Produces {c : Category} (d : Derivation c) (depth : Depth) (p : Production) : Prop where
  levels_le : depth.levels ≤ p.depth.levels
  places_le : p.depth.places + 2 * depth.levels ≤ depth.places + 2 * p.depth.levels
  start_mem : ∃ t ∈ d.yield, p.start? = some (t.start : Int)

theorem Produces.widen {c c' : Category} {e : Derivation c} {d : Derivation c'} {depth : Depth}
    {p : Production} (h : e.Produces depth p) (hy : e.yield ⊆ d.yield) : d.Produces depth p := by
  obtain ⟨t, ht, hs⟩ := h.start_mem
  exact ⟨h.levels_le, h.places_le, t, hy ht, hs⟩

theorem Produces.below {c c' : Category} {e : Derivation c} {d : Derivation c'} {depth : Depth}
    {places : Nat} {p : Production} (h : e.Produces (depth.below places) p) (hp : places ≤ 2)
    (hy : e.yield ⊆ d.yield) : d.Produces depth p := by
  obtain ⟨t, ht, hs⟩ := h.start_mem
  have hl := h.levels_le
  have hle := h.places_le
  rw [Depth.levels_below] at hl hle
  rw [Depth.places_below] at hle
  exact ⟨by omega, by omega, t, hy ht, hs⟩

theorem produces_production {level : Level} (d : Derivation (.expression level)) (depth : Depth)
    (rule : Rule) : d.Produces depth (d.production depth rule) :=
  ⟨Nat.le_refl _, Nat.le_refl _, d.firstToken, d.firstToken_mem, d.production_start? depth rule⟩

theorem produces_of_mem {c : Category} (d : Derivation c) (depth : Depth) :
    ∀ p ∈ d.productions depth, d.Produces depth p := by
  induction d generalizing depth with
  | number | name => exact List.forall_mem_singleton.mpr (produces_production _ _ _)
  | atom d ih | applied d ih | unary d ih | product d ih | first d ih =>
    exact fun p hp => (ih depth p hp).widen (List.Subset.refl _)
  | parens _ _ _ _ _ ih | callNone _ _ _ _ _ ih | negate _ _ _ ih =>
    exact List.forall_mem_cons.mpr ⟨produces_production _ _ _, fun p hp =>
      (ih _ p hp).below (by decide) (by simp [yield])⟩
  | call _ _ _ _ _ _ ihl ihr | multiply _ _ _ _ _ _ ihl ihr | add _ _ _ _ _ _ ihl ihr =>
    refine List.forall_mem_cons.mpr ⟨produces_production _ _ _, List.forall_mem_append.mpr
      ⟨fun p hp => (ihl _ p hp).below (by decide) (by simp [yield]),
        fun p hp => (ihr _ p hp).below (by decide) fun t ht => ?_⟩⟩
    simp [yield, ht]
  | next _ _ _ _ ihb ihd =>
    exact List.forall_mem_append.mpr
      ⟨fun p hp => (ihb _ p hp).widen (by simp [yield]),
        fun p hp => (ihd _ p hp).widen fun t ht => by simp [yield, ht]⟩

section Ordered
variable {length : Nat}

theorem ordered_append {c c' : Category} {d : Derivation c} {e : Derivation c'}
    {depth depth' : Depth} (h : Token.Laid length (d.yield ++ e.yield))
    (hd : Token.Laid length d.yield → Ordered (d.productions depth))
    (he : Token.Laid length e.yield → Ordered (e.productions depth')) :
    Ordered (d.productions depth ++ e.productions depth') := by
  refine List.pairwise_append.mpr ⟨hd (h.sublist (List.sublist_append_left _ _)),
    he (h.sublist (List.sublist_append_right _ _)), fun p hp q hq => .inr ?_⟩
  obtain ⟨t, ht, hpt⟩ := (d.produces_of_mem depth p hp).start_mem
  obtain ⟨u, hu, hqu⟩ := (e.produces_of_mem depth' q hq).start_mem
  have hlt := Token.start_lt_stop (h.spelled t (List.mem_append_left _ ht))
  have hle := (List.pairwise_append.mp h.ordered).2.2 t ht u hu
  exact ⟨t.start, u.start, hpt, hqu, by omega⟩

theorem ordered_parts {c c' : Category} {d : Derivation c} {e : Derivation c'} {p : Production}
    (a b : Nat) (h : Token.Laid length (d.yield ++ e.yield))
    (hd : Token.Laid length d.yield → Ordered (d.productions (p.depth.below a)))
    (he : Token.Laid length e.yield → Ordered (e.productions (p.depth.below b))) :
    Ordered (p :: (d.productions (p.depth.below a) ++ e.productions (p.depth.below b))) := by
  refine .cons (List.forall_mem_append.mpr ⟨fun q hq => ?_, fun q hq => ?_⟩)
    (ordered_append h hd he)
  · exact (d.produces_of_mem _ q hq).levels_le
  · exact (e.produces_of_mem _ q hq).levels_le

/-- Productions of the same depth start one after the other. -/
theorem productions_ordered {c : Category} (d : Derivation c) (depth : Depth)
    (h : Token.Laid length d.yield) : Ordered (d.productions depth) := by
  induction d generalizing depth with
  | number | name => exact List.pairwise_singleton _ _
  | atom d ih | applied d ih | unary d ih | product d ih | first d ih => exact ih depth h
  | parens _ d _ _ _ ih | callNone d _ _ _ _ ih | negate _ d _ ih =>
    refine .cons (fun q hq => (produces_of_mem _ _ q hq).levels_le) (ih _ (h.sublist ?_))
    simp [yield]
  | call callee _ arguments _ _ _ ihl ihr =>
    have hs := h.sublist
      (.append_left (.cons _ (List.sublist_append_left arguments.yield _)) callee.yield)
    exact ordered_parts 1 2 hs (ihl _) (ihr _)
  | multiply _ left sign right _ _ ihl ihr | add _ left sign right _ _ ihl ihr =>
    have hs := h.sublist (.append_left (List.sublist_cons_self sign right.yield) left.yield)
    exact ordered_parts 1 1 hs (ihl _) (ihr _)
  | next before comma d _ ihb ihd =>
    have hs := h.sublist (.append_left (List.sublist_cons_self comma d.yield) before.yield)
    exact ordered_append hs (ihb _) (ihd _)

end Ordered

/-- Lowering complains exactly if the limits do not allow for a production, and then about the first
such one: the leftmost of those that are one level too deep, or one that the stack has no places
for. -/
theorem excess_leftmost (d : Sentence) {length : Nat} (h : Token.Laid length d.yield)
    (limits : Limits) :
    match d.excess limits 0 with
    | none => ∀ p ∈ d.piece.phrase.productions 0, limits.Allow p.depth
    | some (.level t) => t.start ≤ length ∧ ∃ p, p.start? = some (t.start : Int) ∧
        Production.Leftmost (d.piece.phrase.productions 0) (limits.nesting + 1) p
    | some .stack => ∃ p ∈ d.piece.phrase.productions 0,
        p.depth.levels ≤ limits.nesting + 1 ∧ limits.stack < p.depth.places := by
  have hl : d.piece.phrase.productions 0 = d.productions 0 := d.listing_eq 0
  have hfound : Finds limits (d.productions 0) (d.excess limits 0) :=
    d.finds_excess (Nat.zero_le (limits.nesting + 1))
  rw [hl]
  unfold Finds at hfound
  generalize hf : (d.productions 0).find? (Production.exceeds limits) = found at hfound
  generalize d.excess limits 0 = excess at hfound
  cases hfound with
  | none =>
    intro p hp
    have hn := List.find?_eq_none.mp hf p hp
    rwa [Production.exceeds_iff, not_not] at hn
  | @some p obstacle hpo =>
    obtain ⟨hdepth, t, hstart, hobstacle⟩ := hpo
    have hmem := List.mem_of_find?_eq_some hf
    unfold Limits.obstacle at hobstacle
    split at hobstacle
    · next hs =>
      cases hobstacle
      exact ⟨p, hmem, hdepth, hs⟩
    · split at hobstacle
      · next hn =>
        cases hobstacle
        obtain ⟨u, hu, hpu⟩ := (d.produces_of_mem 0 p hmem).start_mem
        have htu : (t.start : Int) = u.start := Option.some.inj (hstart.symm.trans hpu)
        have hb := h.bounded u hu
        rw [Token.stop_eq] at hb
        exact ⟨by omega, p, hstart, (d.productions_ordered 0 h).leftmost hf (by omega)⟩
      · cases hobstacle

/-- A production takes two places for every level around it at most. -/
theorem places_le_of_mem (d : Sentence) {p : Production} (h : p ∈ d.piece.phrase.productions 0) :
    p.depth.places ≤ 2 * p.depth.levels := by
  rw [show d.piece.phrase.productions 0 = d.productions 0 from d.listing_eq 0] at h
  simpa using (d.produces_of_mem 0 p h).places_le

end Derivation
end Reckoner
