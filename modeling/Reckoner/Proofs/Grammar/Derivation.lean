import Reckoner.Program
import Reckoner.Proofs.Limits
import Reckoner.Proofs.Token.Reads

/-! # Derivations

The grammar of expressions, as the type of its derivation trees:

    sum       → product (("+" | "-") product)*
    product   → unary (("*" | "/") unary)*
    unary     → "-" unary | applied
    applied   → atom ("(" arguments? ")")*
    atom      → NUMBER | NAME | "(" sum ")"
    arguments → sum ("," sum)*

A repetition grows at its right end, one round at a time. A derivation knows the tokens it is over,
the phrase that the reader builds for them, and the tree they stand for.
-/
namespace Reckoner

/-- The layers of an expression, the loosest first. -/
inductive Level
  | sum
  | product
  | unary
  | applied
  | atom

inductive Category
  | expression (level : Level)
  | arguments

def Operator.mark : Operator → Token.Kind
  | .plus => .plus
  | .minus => .minus
  | .times => .star
  | .divide => .slash

inductive Derivation : Category → Type
  | number (t : Token) (ht : t.kind = .number) : Derivation (.expression .atom)
  | name (t : Token) (ht : t.kind = .name) : Derivation (.expression .atom)
  | parens (opening : Token) (inner : Derivation (.expression .sum)) (closing : Token)
      (ho : opening.kind = .openParen) (hc : closing.kind = .closeParen) :
      Derivation (.expression .atom)
  | atom (d : Derivation (.expression .atom)) : Derivation (.expression .applied)
  | callNone (callee : Derivation (.expression .applied)) (opening closing : Token)
      (ho : opening.kind = .openParen) (hc : closing.kind = .closeParen) :
      Derivation (.expression .applied)
  | call (callee : Derivation (.expression .applied)) (opening : Token)
      (arguments : Derivation .arguments) (closing : Token) (ho : opening.kind = .openParen)
      (hc : closing.kind = .closeParen) : Derivation (.expression .applied)
  | applied (d : Derivation (.expression .applied)) : Derivation (.expression .unary)
  | negate (sign : Token) (operand : Derivation (.expression .unary)) (hs : sign.kind = .minus) :
      Derivation (.expression .unary)
  | unary (d : Derivation (.expression .unary)) : Derivation (.expression .product)
  | multiply (op : Operator) (left : Derivation (.expression .product)) (sign : Token)
      (right : Derivation (.expression .unary)) (hop : op = .times ∨ op = .divide)
      (hs : sign.kind = op.mark) : Derivation (.expression .product)
  | product (d : Derivation (.expression .product)) : Derivation (.expression .sum)
  | add (op : Operator) (left : Derivation (.expression .sum)) (sign : Token)
      (right : Derivation (.expression .product)) (hop : op = .plus ∨ op = .minus)
      (hs : sign.kind = op.mark) : Derivation (.expression .sum)
  | first (d : Derivation (.expression .sum)) : Derivation .arguments
  | next (before : Derivation .arguments) (comma : Token) (d : Derivation (.expression .sum))
      (hc : comma.kind = .comma) : Derivation .arguments

abbrev Sentence := Derivation (.expression .sum)

/-- One `α` for an expression, several for arguments. -/
@[reducible] def Category.Of (α : Type) : Category → Type
  | .expression _ => α
  | .arguments => List α

namespace Derivation

/-- The tokens that are derived, in order. -/
def yield {c : Category} : Derivation c → List Token
  | number t _ | name t _ => [t]
  | parens opening inner closing _ _ => opening :: (inner.yield ++ [closing])
  | atom d | applied d | unary d | product d | first d => d.yield
  | callNone callee opening closing _ _ => callee.yield ++ [opening, closing]
  | call callee opening arguments closing _ _ =>
    callee.yield ++ opening :: (arguments.yield ++ [closing])
  | negate sign operand _ => sign :: operand.yield
  | multiply _ left sign right _ _ | add _ left sign right _ _ =>
    left.yield ++ sign :: right.yield
  | next before comma d _ => before.yield ++ comma :: d.yield

def firstToken {c : Category} : Derivation c → Token
  | number t _ | name t _ => t
  | parens opening _ _ _ _ => opening
  | atom d | applied d | unary d | product d | first d => d.firstToken
  | callNone callee _ _ _ _ | call callee _ _ _ _ _ => callee.firstToken
  | negate sign _ _ => sign
  | multiply _ left _ _ _ _ | add _ left _ _ _ _ => left.firstToken
  | next before _ _ _ => before.firstToken

def lastToken {c : Category} : Derivation c → Token
  | number t _ | name t _ => t
  | parens _ _ closing _ _ => closing
  | atom d | applied d | unary d | product d | first d => d.lastToken
  | callNone _ _ closing _ _ | call _ _ _ closing _ _ => closing
  | negate _ operand _ => operand.lastToken
  | multiply _ _ _ right _ _ | add _ _ _ right _ _ => right.lastToken
  | next _ _ d _ => d.lastToken

def span {c : Category} (d : Derivation c) : Span := ⟨d.firstToken.start, d.lastToken.stop⟩

/-- How deep operands, callees, arguments and parentheses are nested, and how much of the stack it
takes to lower them. -/
def extent {c : Category} : Derivation c → Depth
  | number .. | name .. => 0
  | parens _ inner _ _ _ => inner.extent.below 1
  | atom d | applied d | unary d | product d | first d => d.extent
  | callNone callee _ _ _ _ => callee.extent.below 1
  | call callee _ arguments _ _ _ => max (callee.extent.below 1) (arguments.extent.below 2)
  | negate _ operand _ => operand.extent.below 1
  | multiply _ left _ right _ _ | add _ left _ right _ _ =>
    max (left.extent.below 1) (right.extent.below 1)
  | next before _ d _ => max before.extent d.extent

/-- What the reader builds. -/
def piece : {c : Category} → Derivation c → c.Of Piece
  | _, number t _ => .ofToken .number t
  | _, name t _ => .ofToken .reference t
  | _, parens opening inner closing _ _ => .parens opening.start closing.stop inner.piece
  | _, atom d => d.piece
  | _, callNone callee _ closing _ _ => .call callee.piece [] closing.stop
  | _, call callee _ arguments closing _ _ => .call callee.piece arguments.piece closing.stop
  | _, applied d => d.piece
  | _, negate sign operand _ => .negated sign.start operand.piece
  | _, unary d => d.piece
  | _, multiply op left _ right _ _ => .binary op left.piece right.piece
  | _, product d => d.piece
  | _, add op left _ right _ _ => .binary op left.piece right.piece
  | _, first d => [d.piece]
  | _, next before _ d _ => before.piece ++ [d.piece]

theorem arguments_ne_nil : {c : Category} → (d : Derivation c) →
    match c, d with
    | .arguments, d => d.piece ≠ []
    | .expression _, _ => True
  | _, .first d => by simp [piece]
  | _, .next before comma d _ => by simp [piece]
  | .expression _, _ => trivial

def numberOf (t : Token) : Float := (Decimal.readLoose? t.text).getD 0

/-- The tree that is meant: operators and calls over their parts, and no node for parentheses,
whose span goes to the node inside. -/
def tree {η : Type} : {c : Category} → Derivation c → c.Of (Node η)
  | _, d@(number t _) => .value (.number (numberOf t)) (some d.span)
  | _, d@(name t _) => .value (.reference t.text) (some d.span)
  | _, d@(parens _ inner _ _ _) => inner.tree.withSpan (some d.span)
  | _, atom d => d.tree
  | _, d@(callNone callee _ _ _ _) => .call callee.tree [] (some d.span)
  | _, d@(call callee _ arguments _ _ _) => .call callee.tree arguments.tree (some d.span)
  | _, applied d => d.tree
  | _, d@(negate _ operand _) => .negate operand.tree (some d.span)
  | _, unary d => d.tree
  | _, d@(multiply op left _ right _ _) => .binary op left.tree right.tree (some d.span)
  | _, product d => d.tree
  | _, d@(add op left _ right _ _) => .binary op left.tree right.tree (some d.span)
  | _, first d => [d.tree]
  | _, next before _ d _ => before.tree ++ [d.tree]

end Derivation

end Reckoner
