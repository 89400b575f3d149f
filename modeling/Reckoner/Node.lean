import Reckoner.Operator
import Reckoner.Span
import Reckoner.Value

/-! # Expression trees

A node is a value, an operator with its operands, or a call, and may know the span of the source
it was read from. Parentheses leave no node. Values in compiled trees are numbers and references;
trees built by hand may hold any value.
-/
namespace Reckoner

inductive Node (η : Type)
  | value (v : Value η) (span : Option Span)
  | binary (op : Operator) (left right : Node η) (span : Option Span)
  | negate (operand : Node η) (span : Option Span)
  | call (callee : Node η) (arguments : List (Node η)) (span : Option Span)

namespace Node
variable {η : Type}

def span : Node η → Option Span
  | .value _ span | .binary _ _ _ span | .negate _ span | .call _ _ span => span

def withSpan (span : Option Span) : Node η → Node η
  | .value v _ => .value v span
  | .binary op left right _ => .binary op left right span
  | .negate operand _ => .negate operand span
  | .call callee arguments _ => .call callee arguments span

def children : Node η → List (Node η)
  | .value .. => []
  | .binary _ left right _ => [left, right]
  | .negate operand _ => [operand]
  | .call callee arguments _ => callee :: arguments

def operatorLabel (op : Operator) : Text := "operator ".toList ++ [op.symbol]

def negateLabel : Text := "operator unary -".toList

def label : Node η → Text
  | .value v _ => v.written
  | .binary op _ _ _ => operatorLabel op
  | .negate .. => negateLabel
  | .call .. => "function".toList

mutual

def beq : Node η → Node η → Bool
  | .value v s, .value w t => v == w && s == t
  | .binary op l r s, .binary op' l' r' t => op == op' && beq l l' && beq r r' && s == t
  | .negate n s, .negate n' t => beq n n' && s == t
  | .call c as s, .call c' bs t => beq c c' && beqAll as bs && s == t
  | _, _ => false

def beqAll : List (Node η) → List (Node η) → Bool
  | [], [] => true
  | n :: ns, m :: ms => beq n m && beqAll ns ms
  | _, _ => false

end

instance : BEq (Node η) := ⟨beq⟩

mutual

def size : Node η → Nat
  | .value .. => 1
  | .binary _ left right _ => left.size + right.size + 1
  | .negate operand _ => operand.size + 1
  | .call callee arguments _ => callee.size + sizeAll arguments + 1

def sizeAll : List (Node η) → Nat
  | [] => 0
  | n :: ns => n.size + sizeAll ns

end

mutual

def height : Node η → Nat
  | .value .. => 0
  | .binary _ left right _ => max left.height right.height + 1
  | .negate operand _ => operand.height + 1
  | .call callee arguments _ => max callee.height (heightAll arguments) + 1

def heightAll : List (Node η) → Nat
  | [] => 0
  | n :: ns => max n.height (heightAll ns)

end

mutual

/-- The places on the stack that a walk down a tree takes below its root, if a level takes `step`
of them. An argument takes one more, as it is reached from within a list. -/
def places (step : Nat) : Node η → Nat
  | .value .. => 0
  | .binary _ left right _ => max (left.places step) (right.places step) + step
  | .negate operand _ => operand.places step + step
  | .call callee arguments _ => max (callee.places step) (placesAll step arguments) + step

def placesAll (step : Nat) : List (Node η) → Nat
  | [] => 0
  | n :: ns => max (n.places step + 1) (placesAll step ns)

end

end Node

end Reckoner
