import Reckoner.Proofs.Grammar.Derivation
import Reckoner.Proofs.Number.Numeral

/-! # Lowering a derivation

The phrase that the reader builds for a derivation is lowered to the tree of the derivation as long
as its nesting stays within both limits. Otherwise the first phrase that is too deep, in the order
of their first tokens from the outside in, is complained about, and nothing else. All spans are in
order and inside the source, and every number can be read, because the tokens were.
-/
namespace Reckoner

/-- What keeps a phrase from being lowered: it is a level too deep, from a token on, or the stack is
exhausted, which has no place in the source. -/
inductive Obstacle
  | level (t : Token)
  | stack

namespace Limits

/-- What keeps a phrase at a depth, from a token on, from being lowered before its parts are. -/
def obstacle (limits : Limits) (depth : Depth) (t : Token) : Option Obstacle :=
  if limits.stack < depth.places then some .stack
  else if limits.nesting < depth.levels then some (.level t)
  else none

theorem obstacle_eq_none_iff {limits : Limits} {depth : Depth} {t : Token} :
    limits.obstacle depth t = none ↔ limits.Allow depth := by
  rw [obstacle, Allow]
  split
  · simp [*]
  · split <;> simp <;> omega

theorem nesting_lt_of_obstacle {limits : Limits} {depth : Depth} {t u : Token}
    (h : limits.obstacle depth t = some (.level u)) : limits.nesting < depth.levels := by
  unfold obstacle at h
  split at h
  · cases h
  · split at h
    · assumption
    · cases h

def complaint (limits : Limits) (source : Text) : Obstacle → Node.Fault
  | .level t => .source (.located (.nestingLimit limits.nesting) (CodePoint.ofText source) t.start)
  | .stack => .stackExhausted

end Limits

namespace Derivation

theorem yield_eq_cons {c : Category} (d : Derivation c) :
    ∃ rest, d.yield = d.firstToken :: rest := by
  induction d with
  | number | name | parens | negate => exact ⟨_, rfl⟩
  | atom d ih | applied d ih | unary d ih | product d ih | first d ih => exact ih
  | callNone callee opening closing ho hc ih =>
    obtain ⟨rest, hr⟩ := ih
    exact ⟨_, by rw [yield, hr, List.cons_append]; rfl⟩
  | call callee opening arguments closing ho hc ih =>
    obtain ⟨rest, hr⟩ := ih
    exact ⟨_, by rw [yield, hr, List.cons_append]; rfl⟩
  | multiply op left sign right hop hs ih =>
    obtain ⟨rest, hr⟩ := ih
    exact ⟨_, by rw [yield, hr, List.cons_append]; rfl⟩
  | add op left sign right hop hs ih =>
    obtain ⟨rest, hr⟩ := ih
    exact ⟨_, by rw [yield, hr, List.cons_append]; rfl⟩
  | next before comma d hc ih =>
    obtain ⟨rest, hr⟩ := ih
    exact ⟨_, by rw [yield, hr, List.cons_append]; rfl⟩

theorem yield_eq_concat {c : Category} (d : Derivation c) :
    ∃ rest, d.yield = rest ++ [d.lastToken] := by
  induction d with
  | number | name => exact ⟨[], rfl⟩
  | parens opening inner closing => exact ⟨opening :: inner.yield, rfl⟩
  | atom d ih | applied d ih | unary d ih | product d ih | first d ih => exact ih
  | callNone callee opening closing => exact ⟨callee.yield ++ [opening], by simp [yield, lastToken]⟩
  | call callee opening arguments closing =>
    exact ⟨callee.yield ++ opening :: arguments.yield, by simp [yield, lastToken]⟩
  | negate sign operand hs ih =>
    obtain ⟨rest, hr⟩ := ih
    exact ⟨sign :: rest, by rw [yield, hr]; rfl⟩
  | multiply op left sign right hop hs _ ih =>
    obtain ⟨rest, hr⟩ := ih
    exact ⟨left.yield ++ sign :: rest, by simp [yield, hr, lastToken]⟩
  | add op left sign right hop hs _ ih =>
    obtain ⟨rest, hr⟩ := ih
    exact ⟨left.yield ++ sign :: rest, by simp [yield, hr, lastToken]⟩
  | next before comma d hc _ ih =>
    obtain ⟨rest, hr⟩ := ih
    exact ⟨before.yield ++ comma :: rest, by simp [yield, hr, lastToken]⟩

theorem span_within {c : Category} {length : Nat} (d : Derivation c)
    (h : Token.Laid length d.yield) :
    d.firstToken.start ≤ d.lastToken.stop ∧ d.lastToken.stop ≤ length := by
  obtain ⟨rest, hr⟩ := d.yield_eq_cons
  obtain ⟨init, hi⟩ := d.yield_eq_concat
  have hmem : d.lastToken ∈ d.yield := by rw [hi]; simp
  refine ⟨?_, h.bounded _ hmem⟩
  have hp := h.ordered
  rw [hr] at hp hmem
  have hstop := d.lastToken.stop_eq
  have hfirst := d.firstToken.stop_eq
  rcases List.mem_cons.mp hmem with he | ht
  · rw [← he]
    omega
  · have hle := (List.pairwise_cons.mp hp).1 _ ht
    omega

theorem piece_bounds : ∀ {level : Level} (d : Derivation (.expression level)),
    d.piece.start = d.firstToken.start ∧ d.piece.stop = d.lastToken.stop
  | _, number .. | _, name .. | _, parens .. => ⟨rfl, rfl⟩
  | _, atom d | _, applied d | _, unary d | _, product d => piece_bounds d
  | _, callNone callee .. | _, call callee .. => ⟨(piece_bounds callee).1, rfl⟩
  | _, negate _ operand _ => ⟨rfl, (piece_bounds operand).2⟩
  | _, multiply _ left _ right .. | _, add _ left _ right .. =>
    ⟨(piece_bounds left).1, (piece_bounds right).2⟩

end Derivation

namespace Node
variable {η : Type}

theorem place_within {source : Text} {span : Span} (h : span.Within source.length)
    (node : Node η) :
    place source (span.start, span.stop) node = .ok (node.withSpan (some span)) := by
  obtain ⟨start, stop⟩ := span
  obtain ⟨hle, hin⟩ : start ≤ stop ∧ stop ≤ source.length := h
  have hb (n : Nat) : Datum.toIntegerWithin 0 none (.integer (n : Int)) = .ok (n : Int) := by
    simp [Datum.toIntegerWithin, Datum.toInteger]
  have hs : Span.ofBounds source.length (start : Int) (stop : Int) = .ok ⟨start, stop⟩ := by
    simp only [Span.ofBounds, Span.check, hb]
    rw [if_pos ⟨by omega, by omega⟩]
    rfl
  simp only [place, hs]

/-- The outcome of lowering a tree: the tree itself if there is no obstacle, and otherwise the
complaint about the first. -/
def verdict (limits : Limits) (source : Text) {α : Type} (tree : α) :
    Option Obstacle → Except Fault α
  | none => .ok tree
  | some obstacle => .error (limits.complaint source obstacle)

section Verdict
variable {limits : Limits} {source : Text} {α β : Type} {x : α} {y : β} {a b : Option Obstacle}
  {next : α → Except Fault β}

theorem verdict_bind (h : next x = verdict limits source y b) :
    (verdict limits source x a >>= next) = verdict limits source y (a.or b) := by
  cases a with
  | none => exact h
  | some obstacle => rfl

theorem verdict_last (h : next x = .ok y) :
    (verdict limits source x a >>= next) = verdict limits source y a := by
  cases a with
  | none => exact h
  | some obstacle => rfl

end Verdict

theorem lowerAll_append (limits : Limits) (source : Text) (depth : Depth) (before : List Phrase)
    (last : Phrase) :
    (lowerAll limits source depth (before ++ [last]) : Except Fault (List (Node η))) = (do
      let ns ← lowerAll limits source depth before
      let n ← lower limits source depth last
      .ok (ns ++ [n])) := by
  induction before with
  | nil =>
    rw [List.nil_append, lowerAll, lowerAll]
    rfl
  | cons phrase rest ih =>
    rw [List.cons_append, lowerAll, lowerAll, ih]
    simp only [bind_assoc]
    rfl

section Lower
variable {limits : Limits} {source : Text} {depth : Depth} {bounds : Int × Int} {t : Token}
  {a b : Option Obstacle} {l r tree : Node η} {left right : Phrase}

/-- The stack and then the depth are checked first. -/
theorem lower_checked {rule : Rule} {parts : List Phrase} (hb : bounds.1 = t.start)
    (h : limits.Allow depth →
      lower limits source depth (.node rule (some bounds) parts) = verdict limits source tree a) :
    lower limits source depth (.node rule (some bounds) parts) =
      verdict limits source tree ((limits.obstacle depth t).or a) := by
  by_cases hs : limits.stack < depth.places
  · rw [Limits.obstacle, if_pos hs]
    unfold lower
    rw [if_pos hs]
    rfl
  · by_cases hn : limits.nesting < depth.levels
    · rw [Limits.obstacle, if_neg hs, if_pos hn]
      unfold lower
      rw [if_neg hs, if_pos hn, refuse, hb]
      rfl
    · rw [Limits.obstacle, if_neg hs, if_neg hn]
      exact h ⟨Nat.le_of_not_lt hn, Nat.le_of_not_lt hs⟩

theorem lower_number {kind : String} {text : Text} {x : Float} (hb : bounds.1 = t.start)
    (hx : Decimal.readLoose? text = some x)
    (hp : place source bounds (.value (.number x) none) = .ok tree) :
    lower limits source depth (.node .number (some bounds) [.leaf kind text]) =
      verdict limits source tree (limits.obstacle depth t) := by
  refine (lower_checked (a := none) hb fun h => ?_).trans (by rw [Option.or_none])
  rw [lower, if_neg (Nat.not_lt.mpr h.2), if_neg (Nat.not_lt.mpr h.1)]
  simp only [leafText, Bind.bind, Except.bind, hx, hp]
  rfl

theorem lower_reference {kind : String} {name : Text} (hb : bounds.1 = t.start)
    (hp : place source bounds (.value (.reference name) none) = .ok tree) :
    lower limits source depth (.node .reference (some bounds) [.leaf kind name]) =
      verdict limits source tree (limits.obstacle depth t) := by
  refine (lower_checked (a := none) hb fun h => ?_).trans (by rw [Option.or_none])
  rw [lower, if_neg (Nat.not_lt.mpr h.2), if_neg (Nat.not_lt.mpr h.1)]
  simp only [leafText, Bind.bind, Except.bind, hp]
  rfl

theorem lower_one {rule : Rule} {parts : List Phrase} {build : Node η → Node η}
    (hb : bounds.1 = t.start)
    (he : limits.Allow depth → lower limits source depth (.node rule (some bounds) parts) = (do
      let n ← lower limits source (depth.below 1) left
      place source bounds (build n)))
    (hl : lower limits source (depth.below 1) left = verdict limits source l a)
    (hp : place source bounds (build l) = .ok tree) :
    lower limits source depth (.node rule (some bounds) parts) =
      verdict limits source tree ((limits.obstacle depth t).or a) := by
  refine lower_checked hb fun h => ?_
  rw [he h, hl]
  exact verdict_last hp

theorem lower_negate (hb : bounds.1 = t.start)
    (hl : lower limits source (depth.below 1) left = verdict limits source l a)
    (hp : place source bounds (.negate l none) = .ok tree) :
    lower limits source depth (.node .negate (some bounds) [left]) =
      verdict limits source tree ((limits.obstacle depth t).or a) :=
  lower_one hb
    (fun h => by rw [lower, if_neg (Nat.not_lt.mpr h.2), if_neg (Nat.not_lt.mpr h.1)]) hl hp

theorem lower_parens (hb : bounds.1 = t.start)
    (hl : lower limits source (depth.below 1) left = verdict limits source l a)
    (hp : place source bounds l = .ok tree) :
    lower limits source depth (.node .parens (some bounds) [left]) =
      verdict limits source tree ((limits.obstacle depth t).or a) :=
  lower_one hb
    (fun h => by rw [lower, if_neg (Nat.not_lt.mpr h.2), if_neg (Nat.not_lt.mpr h.1)]) hl hp

theorem lower_callNone (hb : bounds.1 = t.start)
    (hl : lower limits source (depth.below 1) left = verdict limits source l a)
    (hp : place source bounds (.call l [] none) = .ok tree) :
    lower limits source depth (.node .call (some bounds) [left, .absent]) =
      verdict limits source tree ((limits.obstacle depth t).or a) :=
  lower_one hb
    (fun h => by rw [lower, if_neg (Nat.not_lt.mpr h.2), if_neg (Nat.not_lt.mpr h.1)]) hl hp

theorem lower_binary {op : Operator} (hb : bounds.1 = t.start)
    (hl : lower limits source (depth.below 1) left = verdict limits source l a)
    (hr : lower limits source (depth.below 1) right = verdict limits source r b)
    (hp : place source bounds (.binary op l r none) = .ok tree) :
    lower limits source depth (.node (.binary op) (some bounds) [left, right]) =
      verdict limits source tree ((limits.obstacle depth t).or (a.or b)) := by
  refine lower_checked hb fun h => ?_
  rw [lower, if_neg (Nat.not_lt.mpr h.2), if_neg (Nat.not_lt.mpr h.1), hl, hr]
  exact verdict_bind (verdict_last hp)

theorem lower_call {rule : Rule} {within : Option (Int × Int)} {arguments : List Phrase}
    {ns : List (Node η)} (hb : bounds.1 = t.start)
    (hl : lower limits source (depth.below 1) left = verdict limits source l a)
    (hs : lowerAll limits source (depth.below 2) arguments = verdict limits source ns b)
    (hp : place source bounds (.call l ns none) = .ok tree) :
    lower limits source depth (.node .call (some bounds) [left, .node rule within arguments]) =
      verdict limits source tree ((limits.obstacle depth t).or (a.or b)) := by
  refine lower_checked hb fun h => ?_
  rw [lower, if_neg (Nat.not_lt.mpr h.2), if_neg (Nat.not_lt.mpr h.1), hl, hs]
  exact verdict_bind (verdict_last hp)

theorem lowerAll_concat {before : List Phrase} {ns : List (Node η)}
    (hs : lowerAll limits source depth before = verdict limits source ns a)
    (hl : lower limits source depth left = verdict limits source l b) :
    lowerAll limits source depth (before ++ [left]) =
      verdict limits source (ns ++ [l]) (a.or b) := by
  rw [lowerAll_append, hs, hl]
  exact verdict_bind (verdict_last rfl)

end Lower

end Node

namespace Derivation
variable {η : Type} {limits : Limits} {source : Text}

theorem place_piece {level : Level} (d : Derivation (.expression level))
    (h : Token.Laid source.length d.yield) (node : Node η) :
    Node.place source (d.piece.start, d.piece.stop) node =
      .ok (node.withSpan (some d.span)) := by
  have hw : d.span.Within source.length := d.span_within h
  rw [d.piece_bounds.1, d.piece_bounds.2]
  exact Node.place_within hw node

def lowering (limits : Limits) (source : Text) (depth : Depth) :
    {c : Category} → Derivation c → Except Node.Fault (c.Of (Node η))
  | .expression _, d => Node.lower limits source depth d.piece.phrase
  | .arguments, d => Node.lowerAll limits source depth (d.piece.map Piece.phrase)

theorem arguments_sublist {callee : Derivation (.expression .applied)} {opening closing : Token}
    {arguments : Derivation .arguments} {ho : opening.kind = .openParen}
    {hc : closing.kind = .closeParen} :
    arguments.yield.Sublist (call callee opening arguments closing ho hc).yield :=
  .trans (.cons _ (List.sublist_append_left _ _)) (List.sublist_append_right _ _)

theorem argumentList_piece (d : Derivation .arguments) : ∃ bounds,
    Piece.argumentList d.piece = .node .arguments bounds (d.piece.map Piece.phrase) := by
  cases h : d.piece with
  | nil => exact absurd h d.arguments_ne_nil
  | cons p rest => exact ⟨_, rfl⟩

/-- What keeps a derivation at a depth from being lowered, the first from the outside in and from
the left. -/
def excess (limits : Limits) (depth : Depth) : {c : Category} → Derivation c → Option Obstacle
  | _, number t _ | _, name t _ => limits.obstacle depth t
  | _, parens opening inner _ _ _ =>
    (limits.obstacle depth opening).or (inner.excess limits (depth.below 1))
  | _, atom d | _, applied d | _, unary d | _, product d | _, first d => d.excess limits depth
  | _, callNone callee _ _ _ _ =>
    (limits.obstacle depth callee.firstToken).or (callee.excess limits (depth.below 1))
  | _, call callee _ arguments _ _ _ =>
    (limits.obstacle depth callee.firstToken).or
      ((callee.excess limits (depth.below 1)).or (arguments.excess limits (depth.below 2)))
  | _, negate sign operand _ =>
    (limits.obstacle depth sign).or (operand.excess limits (depth.below 1))
  | _, multiply _ left _ right _ _ | _, add _ left _ right _ _ =>
    (limits.obstacle depth left.firstToken).or
      ((left.excess limits (depth.below 1)).or (right.excess limits (depth.below 1)))
  | _, next before _ d _ => (before.excess limits depth).or (d.excess limits depth)

theorem excess_eq_none_iff {c : Category} (d : Derivation c) (depth : Depth) :
    d.excess limits depth = none ↔ limits.Allow (depth + d.extent) := by
  induction d generalizing depth with
  | number | name => simp [excess, extent, Limits.obstacle_eq_none_iff]
  | atom d ih | applied d ih | unary d ih | product d ih | first d ih => exact ih depth
  | parens _ _ _ _ _ ih | callNone _ _ _ _ _ ih | negate _ _ _ ih =>
    simp [excess, Limits.obstacle_eq_none_iff, ih, extent, Limits.Allow]
    omega
  | call _ _ _ _ _ _ ihl ihr | multiply _ _ _ _ _ _ ihl ihr | add _ _ _ _ _ _ ihl ihr =>
    simp [excess, Limits.obstacle_eq_none_iff, ihl, ihr, extent, Limits.Allow]
    omega
  | next _ _ _ _ ihb ihd =>
    simp [excess, ihb, ihd, extent, Limits.Allow]
    omega

theorem nesting_lt_of_excess {c : Category} (d : Derivation c) (depth : Depth) {t : Token}
    (h : d.excess limits depth = some (.level t)) :
    limits.nesting < depth.levels + d.extent.levels := by
  induction d generalizing depth with
  | number | name => simpa [extent] using Limits.nesting_lt_of_obstacle h
  | atom d ih | applied d ih | unary d ih | product d ih | first d ih => exact ih depth h
  | parens _ _ _ _ _ ih | callNone _ _ _ _ _ ih | negate _ _ _ ih =>
    rcases Option.or_eq_some_iff.mp h with h | ⟨-, h⟩
    · have hlt := Limits.nesting_lt_of_obstacle h
      omega
    · have hlt := ih _ h
      simp only [extent, Depth.levels_below] at hlt ⊢
      omega
  | call _ _ _ _ _ _ ihl ihr | multiply _ _ _ _ _ _ ihl ihr | add _ _ _ _ _ _ ihl ihr =>
    simp only [extent, Depth.levels_below, Depth.levels_max]
    rcases Option.or_eq_some_iff.mp h with h | ⟨-, h⟩
    · have hlt := Limits.nesting_lt_of_obstacle h
      omega
    · rcases Option.or_eq_some_iff.mp h with h | ⟨-, h⟩
      · have hlt := ihl _ h
        rw [Depth.levels_below] at hlt
        omega
      · have hlt := ihr _ h
        rw [Depth.levels_below] at hlt
        omega
  | next _ _ _ _ ihb ihd =>
    simp only [extent, Depth.levels_max]
    rcases Option.or_eq_some_iff.mp h with h | ⟨-, h⟩
    · have hlt := ihb _ h
      omega
    · have hlt := ihd _ h
      omega

/-- Where only the places on the stack do not suffice, the stack is exhausted. -/
theorem excess_eq_stack {c : Category} {d : Derivation c} {depth : Depth}
    (hl : depth.levels + d.extent.levels ≤ limits.nesting)
    (hp : limits.stack < depth.places + d.extent.places) :
    d.excess limits depth = some .stack := by
  cases h : d.excess limits depth with
  | none => exact absurd ((d.excess_eq_none_iff depth).mp h).2 (Nat.not_le.mpr hp)
  | some obstacle =>
    cases obstacle with
    | level t => exact absurd (d.nesting_lt_of_excess depth h) (Nat.not_lt.mpr hl)
    | stack => rfl

/-- Lowering gives the tree of a derivation, and complains about nothing but the first excess of
depth. -/
theorem lowering_eq : ∀ {c : Category} (d : Derivation c) (depth : Depth),
    Token.Laid source.length d.yield →
      d.lowering limits source depth =
        Node.verdict limits source (d.tree (η := η)) (d.excess limits depth)
  | _, number t ht, depth, h => by
    have hs : Token.Spells t.kind t.text := h.spelled t List.mem_cons_self
    rw [ht] at hs
    obtain ⟨x, hx⟩ := Decimal.readLoose?_of_numeral hs
    have hn : numberOf t = x := by rw [numberOf, hx, Option.getD_some]
    rw [tree, hn]
    exact Node.lower_number rfl hx ((number t ht).place_piece h _)
  | _, name t ht, depth, h => Node.lower_reference rfl ((name t ht).place_piece h _)
  | _, parens opening inner closing ho hc, depth, h =>
    Node.lower_parens rfl (inner.lowering_eq (depth.below 1) (h.sublist (by simp [yield])))
      ((parens opening inner closing ho hc).place_piece h _)
  | _, atom d, depth, h | _, applied d, depth, h | _, unary d, depth, h
  | _, product d, depth, h => d.lowering_eq depth h
  | _, callNone callee opening closing ho hc, depth, h =>
    Node.lower_callNone (congrArg _ callee.piece_bounds.1)
      (callee.lowering_eq (depth.below 1) (h.sublist (by simp [yield])))
      ((callNone callee opening closing ho hc).place_piece h _)
  | _, call callee opening arguments closing ho hc, depth, h => by
    have hl := callee.lowering_eq (depth.below 1) (h.sublist (by simp [yield]))
    have hs := arguments.lowering_eq (depth.below 2) (h.sublist arguments_sublist)
    have hp := (call callee opening arguments closing ho hc).place_piece h
      (.call (callee.tree (η := η)) arguments.tree none)
    obtain ⟨bounds, ha⟩ := arguments.argumentList_piece
    change Node.lower limits source depth (.node .call
      (some (callee.piece.start, closing.stop)) [callee.piece.phrase, Piece.argumentList _]) = _
    rw [ha]
    exact Node.lower_call (congrArg _ callee.piece_bounds.1) hl hs hp
  | _, negate sign operand hs, depth, h =>
    Node.lower_negate rfl (operand.lowering_eq (depth.below 1) (h.sublist (by simp [yield])))
      ((negate sign operand hs).place_piece h _)
  | _, multiply op left sign right hop hs, depth, h =>
    Node.lower_binary (congrArg _ left.piece_bounds.1)
      (left.lowering_eq (depth.below 1) (h.sublist (by simp [yield])))
      (right.lowering_eq (depth.below 1) (h.sublist (by simp [yield])))
      ((multiply op left sign right hop hs).place_piece h _)
  | _, add op left sign right hop hs, depth, h =>
    Node.lower_binary (congrArg _ left.piece_bounds.1)
      (left.lowering_eq (depth.below 1) (h.sublist (by simp [yield])))
      (right.lowering_eq (depth.below 1) (h.sublist (by simp [yield])))
      ((add op left sign right hop hs).place_piece h _)
  | _, first d, depth, h => by
    have hnil : Node.lowerAll limits source depth [] =
        Node.verdict limits source ([] : List (Node η)) none := rfl
    exact Node.lowerAll_concat hnil (d.lowering_eq depth h)
  | _, next before comma d hc, depth, h => by
    have hs := before.lowering_eq depth (h.sublist (by simp [yield]))
    have hl := d.lowering_eq depth (h.sublist (by simp [yield]))
    have ha := Node.lowerAll_concat hs hl
    change Node.lowerAll limits source depth ((before.piece ++ [d.piece]).map Piece.phrase) = _
    rw [List.map_append]
    exact ha

end Derivation

end Reckoner
