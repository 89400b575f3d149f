import Reckoner.Proofs.Grammar.Completeness

/-! # Arithmetic with two stacks

Numbers can be computed from the tokens of an expression directly: one stack holds the numbers read
or computed so far, the other the marks that still wait. Before an operator waits itself, whatever
binds at least as tightly is carried out, and a closing parenthesis carries out all that waits since
it was opened. A minus sign where a number is due binds more tightly than any operator.

The number of a tree is computed along the tree instead. Both ways agree on every derivation whose
tree has a number, by the argument that makes the reader follow derivations: what an expression may
leave waiting depends on its level.
-/
namespace Reckoner

/-- What waits on the second stack. -/
inductive Mark
  | operator (op : Operator)
  | sign
  | opening

namespace Mark

/-- Signs bind most tightly, then products, then sums; a parenthesis binds nothing. -/
def strength : Mark → Nat
  | .opening => 0
  | .operator .plus | .operator .minus => 1
  | .operator .times | .operator .divide => 2
  | .sign => 3

def carryOut : Mark → List Float → Option (List Float)
  | .operator op, y :: x :: rest => some (op.apply x y :: rest)
  | .sign, x :: rest => some (-x :: rest)
  | _, _ => none

/-- Carries out the marks that bind at least as tightly as `least`. -/
def reduce (least : Nat) : List Mark → List Float → Option (List Mark × List Float)
  | [], numbers => some ([], numbers)
  | mark :: marks, numbers =>
    if least ≤ mark.strength then (mark.carryOut numbers).bind (reduce least marks)
    else some (mark :: marks, numbers)

end Mark

/-- The two stacks, and whether a number is due. -/
structure Stacks where
  numbers : List Float
  marks : List Mark
  due : Bool

namespace Stacks

def takeDue (numbers : List Float) (marks : List Mark) (t : Token) : Option Stacks :=
  match t.kind with
  | .number => some ⟨Derivation.numberOf t :: numbers, marks, false⟩
  | .minus => some ⟨numbers, .sign :: marks, true⟩
  | .openParen => some ⟨numbers, .opening :: marks, true⟩
  | _ => none

/-- Lets an operator wait, once all before it is carried out that binds at least as tightly. -/
def await (numbers : List Float) (marks : List Mark) (op : Operator) : Option Stacks :=
  (Mark.reduce (Mark.operator op).strength marks numbers).map fun r =>
    ⟨r.2, .operator op :: r.1, true⟩

def takeAfter (numbers : List Float) (marks : List Mark) (t : Token) : Option Stacks :=
  match t.kind with
  | .plus => await numbers marks .plus
  | .minus => await numbers marks .minus
  | .star => await numbers marks .times
  | .slash => await numbers marks .divide
  | .closeParen =>
    match Mark.reduce 1 marks numbers with
    | some (.opening :: rest, numbers) => some ⟨numbers, rest, false⟩
    | _ => none
  | _ => none

def step (state : Stacks) (t : Token) : Option Stacks :=
  if state.due then takeDue state.numbers state.marks t
  else takeAfter state.numbers state.marks t

def run (state : Stacks) (tokens : List Token) : Option Stacks := tokens.foldlM step state

def finish (state : Stacks) : Option Float :=
  match state.due, Mark.reduce 1 state.marks state.numbers with
  | false, some ([], [x]) => some x
  | _, _ => none

def evaluate (tokens : List Token) : Option Float := (run ⟨[], [], true⟩ tokens).bind finish

end Stacks

def Node.number? {η : Type} : Node η → Option Float
  | .value (.number x) _ => some x
  | .binary op left right _ =>
    match left.number?, right.number? with
    | some x, some y => some (op.apply x y)
    | _, _ => none
  | .negate operand _ => operand.number?.map (- ·)
  | _ => none

namespace Node
variable {η : Type}

theorem number?_withSpan (node : Node η) (span : Option Span) :
    (node.withSpan span).number? = node.number? := by
  cases node with
  | value v own => cases v <;> rfl
  | _ => rfl

theorem number?_binary {op : Operator} {left right : Node η} {span : Option Span} {z : Float}
    (h : (binary op left right span).number? = some z) :
    ∃ x y, left.number? = some x ∧ right.number? = some y ∧ z = op.apply x y := by
  unfold number? at h
  split at h
  · next x y hx hy => exact ⟨x, y, hx, hy, (Option.some.inj h).symm⟩
  · cases h

theorem number?_negate {operand : Node η} {span : Option Span} {z : Float}
    (h : (negate operand span).number? = some z) : ∃ x, operand.number? = some x ∧ z = -x := by
  obtain ⟨x, hx, hz⟩ := Option.map_eq_some_iff.mp h
  exact ⟨x, hx, hz.symm⟩

end Node

/-! ## The stacks follow derivations -/

namespace Mark

/-- Nothing that binds at least as tightly as `least` is on top. -/
def Loose (least : Nat) (marks : List Mark) : Prop := ∀ mark ∈ marks.head?, mark.strength < least

theorem strength_operator (op : Operator) : (operator op).strength = op.strength := by
  cases op <;> rfl

theorem loose_cons {least : Nat} {mark : Mark} {marks : List Mark} (h : mark.strength < least) :
    Loose least (mark :: marks) := by
  intro top ht
  cases ht
  exact h

theorem Loose.mono {least more : Nat} {marks : List Mark} (h : Loose least marks)
    (hle : least ≤ more) : Loose more marks :=
  fun mark hm => Nat.lt_of_lt_of_le (h mark hm) hle

theorem reduce_of_loose {least : Nat} {marks : List Mark} (h : Loose least marks)
    (numbers : List Float) : reduce least marks numbers = some (marks, numbers) := by
  cases marks with
  | nil => rfl
  | cons mark rest =>
    have hn : ¬least ≤ mark.strength := Nat.not_le.mpr (h mark rfl)
    rw [reduce, if_neg hn]

theorem reduce_cons {least : Nat} {mark : Mark} (h : least ≤ mark.strength) (marks : List Mark)
    (numbers : List Float) : reduce least (mark :: marks) numbers =
      (mark.carryOut numbers).bind (reduce least marks) := by
  rw [reduce, if_pos h]

end Mark

def Level.Suits : Level → List Mark → Prop
  | .sum, marks => Mark.Loose 1 marks
  | .product, marks => Mark.Loose 2 marks
  | .unary, _ | .applied, _ | .atom, _ => True

namespace Stacks

@[simp] theorem run_nil (state : Stacks) : run state [] = some state := rfl

@[simp] theorem run_cons (state : Stacks) (t : Token) (tokens : List Token) :
    run state (t :: tokens) = (step state t).bind fun next => run next tokens :=
  List.foldlM_cons

@[simp] theorem run_append (state : Stacks) (before after : List Token) :
    run state (before ++ after) = (run state before).bind fun next => run next after :=
  List.foldlM_append

theorem takeAfter_operator {op : Operator} {t : Token} (ht : t.kind = op.mark)
    (numbers : List Float) (marks : List Mark) :
    takeAfter numbers marks t = await numbers marks op := by
  cases op <;> simp only [takeAfter, ht, Operator.mark]

/-- From some stacks on, tokens leave a number that may still be under marks of the expression.
Carrying these out leaves it on top. -/
def Leaves (strength : Nat) (numbers : List Float) (marks : List Mark) (tokens : List Token)
    (x : Float) : Prop :=
  ∃ more waiting, run ⟨numbers, marks, true⟩ tokens = some ⟨more, waiting, false⟩ ∧
    ∀ least ≤ strength, Mark.reduce least waiting more = Mark.reduce least marks (x :: numbers)

section Leaves
variable {strength : Nat} {numbers : List Float} {marks : List Mark} {tokens : List Token}
  {x : Float} {t : Token}

theorem Leaves.mono (h : Leaves strength numbers marks tokens x) {less : Nat}
    (hle : less ≤ strength) : Leaves less numbers marks tokens x := by
  obtain ⟨more, waiting, hr, hw⟩ := h
  exact ⟨more, waiting, hr, fun least hl => hw least (Nat.le_trans hl hle)⟩

theorem Leaves.number (ht : t.kind = .number) :
    Leaves strength numbers marks [t] (Derivation.numberOf t) := by
  refine ⟨Derivation.numberOf t :: numbers, marks, ?_, fun _ _ => rfl⟩
  simp [step, takeDue, ht]

/-- A sign is carried out before anything that follows the operand. -/
theorem Leaves.negate (ht : t.kind = .minus) (h : Leaves 3 numbers (.sign :: marks) tokens x) :
    Leaves 3 numbers marks (t :: tokens) (-x) := by
  obtain ⟨more, waiting, hr, hw⟩ := h
  refine ⟨more, waiting, ?_, fun least hl => ?_⟩
  · simp [step, takeDue, ht, hr]
  · rw [hw least hl, Mark.reduce_cons hl]
    rfl

/-- The closing parenthesis carries out everything since the opening one. -/
theorem Leaves.parens {closing : Token} (ho : t.kind = .openParen)
    (hc : closing.kind = .closeParen) (h : Leaves 1 numbers (.opening :: marks) tokens x) :
    Leaves strength numbers marks (t :: (tokens ++ [closing])) x := by
  obtain ⟨more, waiting, hr, hw⟩ := h
  have hloose : Mark.Loose 1 (.opening :: marks) := Mark.loose_cons Nat.one_pos
  have hreduce : Mark.reduce 1 waiting more = some (.opening :: marks, x :: numbers) := by
    rw [hw 1 (Nat.le_refl 1), Mark.reduce_of_loose hloose]
  have hstart : step ⟨numbers, marks, true⟩ t = some ⟨numbers, .opening :: marks, true⟩ := by
    simp only [step, takeDue, ho, if_true]
  have hend : step ⟨more, waiting, false⟩ closing = some ⟨x :: numbers, marks, false⟩ := by
    simp only [step, takeAfter, hc, hreduce, Bool.false_eq_true, if_false]
  refine ⟨x :: numbers, marks, ?_, fun _ _ => rfl⟩
  simp [hstart, hr, hend]

/-- One round of a left-recursive level. The operator carries out the left side, and waits itself
under whatever the right side leaves. -/
theorem Leaves.binary {op : Operator} {right : List Token} {y : Float} {tight : Nat}
    (hs : t.kind = op.mark) (hl : Leaves op.strength numbers marks tokens x)
    (hr : Leaves tight (x :: numbers) (.operator op :: marks) right y) (hle : op.strength ≤ tight)
    (hloose : Mark.Loose op.strength marks) :
    Leaves op.strength numbers marks (tokens ++ t :: right) (op.apply x y) := by
  obtain ⟨more, waiting, hrun, hw⟩ := hl
  obtain ⟨final, last, hrun', hw'⟩ := hr
  have hreduce : Mark.reduce op.strength waiting more = some (marks, x :: numbers) := by
    rw [hw op.strength (Nat.le_refl _), Mark.reduce_of_loose hloose]
  have hstep : step ⟨more, waiting, false⟩ t =
      some ⟨x :: numbers, .operator op :: marks, true⟩ := by
    simp only [step, takeAfter_operator hs, await, Mark.strength_operator, hreduce,
      Bool.false_eq_true, if_false, Option.map_some]
  refine ⟨final, last, ?_, fun least hleast => ?_⟩
  · simp [hrun, hstep, hrun']
  · have hwaits : least ≤ (Mark.operator op).strength := by rwa [Mark.strength_operator]
    rw [hw' least (Nat.le_trans hleast hle), Mark.reduce_cons hwaits]
    rfl

end Leaves

end Stacks

namespace Derivation
open Stacks (Leaves)

/-- What the stacks make of a derivation of a number. -/
def Computed (η : Type) : {c : Category} → Derivation c → Prop
  | .expression level, d => ∀ x, (d.tree : Node η).number? = some x → ∀ numbers marks,
      level.Suits marks → Leaves level.strength numbers marks d.yield x
  | .arguments, _ => True

theorem computed_binary {η : Type} {level level' : Level} {op : Operator} {sign : Token}
    {left : Derivation (.expression level)} {right : Derivation (.expression level')}
    (hl : left.Computed η) (hr : right.Computed η) (hs : sign.kind = op.mark)
    (ho : op.strength = level.strength) (hle : level.strength ≤ level'.strength)
    {marks : List Mark} (hstart : level.Suits marks) (hloose : Mark.Loose op.strength marks)
    (hright : level'.Suits (.operator op :: marks)) {span : Option Span} {z : Float}
    (hz : (Node.binary op (left.tree : Node η) right.tree span).number? = some z)
    (numbers : List Float) :
    Leaves level.strength numbers marks (left.yield ++ sign :: right.yield) z := by
  obtain ⟨x, y, hx, hy, rfl⟩ := Node.number?_binary hz
  have hleft := hl x hx numbers marks hstart
  have hnext := hr y hy (x :: numbers) (.operator op :: marks) hright
  rw [← ho] at hleft hle ⊢
  exact .binary hs hleft hnext hle hloose

theorem computed {η : Type} {c : Category} (d : Derivation c) : d.Computed η := by
  induction d with
  | number t ht =>
    intro x hx numbers marks _
    cases hx
    exact .number ht
  | name t ht =>
    intro x hx
    cases hx
  | parens opening inner closing ho hc ih =>
    intro x hx numbers marks _
    rw [tree, Node.number?_withSpan] at hx
    exact .parens ho hc (ih x hx numbers _ (Mark.loose_cons Nat.one_pos))
  | atom d ih => exact ih
  | callNone callee opening closing ho hc ih =>
    intro x hx
    cases hx
  | call callee opening arguments closing ho hc ih iha =>
    intro x hx
    cases hx
  | applied d ih =>
    intro x hx numbers marks _
    exact (ih x hx numbers marks trivial).mono (by decide)
  | negate sign operand hs ih =>
    intro z hz numbers marks _
    obtain ⟨x, hx, rfl⟩ := Node.number?_negate hz
    exact .negate hs (ih x hx numbers _ trivial)
  | unary d ih =>
    intro x hx numbers marks _
    exact (ih x hx numbers marks trivial).mono (by decide)
  | multiply op left sign right hop hs ihl ihr =>
    intro z hz numbers marks hm
    have ho : op.strength = 2 := by rcases hop with rfl | rfl <;> rfl
    exact computed_binary ihl ihr hs ho (by decide) hm (by rw [ho]; exact hm) trivial hz numbers
  | product d ih =>
    intro x hx numbers marks hm
    exact (ih x hx numbers marks (Mark.Loose.mono hm (by decide))).mono (by decide)
  | add op left sign right hop hs ihl ihr =>
    intro z hz numbers marks hm
    have ho : op.strength = 1 := by rcases hop with rfl | rfl <;> rfl
    have hw : Mark.Loose 2 (.operator op :: marks) :=
      Mark.loose_cons (by rw [Mark.strength_operator, ho]; decide)
    exact computed_binary ihl ihr hs ho (by decide) hm (by rw [ho]; exact hm) hw hz numbers
  | first d ih => trivial
  | next before comma d hc ihb ihd => trivial

/-- Both ways of computing a number agree. -/
theorem evaluate_yield {η : Type} (d : Sentence) {x : Float}
    (h : (d.tree : Node η).number? = some x) : Stacks.evaluate d.yield = some x := by
  have hnone : Mark.Loose 1 [] := nofun
  obtain ⟨more, waiting, hr, hw⟩ := d.computed x h [] [] hnone
  have hreduce : Mark.reduce 1 waiting more = some ([], [x]) := hw 1 (Nat.le_refl 1)
  rw [Stacks.evaluate, hr, Option.bind_some]
  simp only [Stacks.finish, hreduce]

end Derivation

end Reckoner
