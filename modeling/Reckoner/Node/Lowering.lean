import Reckoner.Error.Parse
import Reckoner.Limits
import Reckoner.Node
import Reckoner.Phrase

/-! # Trees from phrases

Lowering turns a phrase into a tree. Every phrase becomes a node with the span of the phrase;
parentheses give their span to the node inside. Depth counts the enclosing phrases, parentheses
included, and is checked before anything else about a phrase, for which the stack must have a place:
a level takes one place on it, and two if it is an argument's. A phrase that no rule of the grammar
builds is refused.
-/
namespace Reckoner.Node
variable {η : Type}

inductive Fault
  | source (error : ParseError)
  | bounds (complaints : List Complaint)
  | malformed (rule : Text)
  | stackExhausted
  deriving DecidableEq

/-- What a phrase is that stands where a token should. -/
def leafText (rule : Rule) : List Phrase → Except Fault Text
  | .leaf _ text :: _ => .ok text
  | .node .. :: _ => .error (.source (.unlocated (.leafExpected rule.label "Tree")))
  | .absent :: _ => .error (.source (.unlocated (.leafExpected rule.label "NoneType")))
  | [] => .error (.malformed rule.label)

def place (source : Text) (bounds : Int × Int) (node : Node η) : Except Fault (Node η) :=
  match Span.ofBounds source.length bounds.1 bounds.2 with
  | .ok span => .ok (node.withSpan (some span))
  | .error complaints => .error (.bounds complaints)

def refuse (cause : ParseError.Cause) (source : Text) (bounds : Int × Int) :
    Except Fault (Node η) :=
  .error (.source (.located cause (CodePoint.ofText source) bounds.1))

mutual

def lower (limits : Limits) (source : Text) (depth : Depth) : Phrase → Except Fault (Node η)
  | .leaf kind _ => .error (.malformed kind.toList)
  | .absent => .error (.malformed [])
  | .node rule none _ => .error (.malformed rule.label)
  | .node rule (some bounds) parts =>
    if limits.stack < depth.places then .error .stackExhausted
    else if limits.nesting < depth.levels then refuse (.nestingLimit limits.nesting) source bounds
    else
      match rule, parts with
      | .number, parts => do
        let text ← leafText .number parts
        match Decimal.readLoose? text with
        | some x => place source bounds (.value (.number x) none)
        | none => .error (.malformed text)
      | .reference, parts => do
        let name ← leafText .reference parts
        place source bounds (.value (.reference name) none)
      | .binary op, [left, right] => do
        let l ← lower limits source (depth.below 1) left
        let r ← lower limits source (depth.below 1) right
        place source bounds (.binary op l r none)
      | .negate, operand :: _ => do
        let n ← lower limits source (depth.below 1) operand
        place source bounds (.negate n none)
      | .parens, inner :: _ => do
        let n ← lower limits source (depth.below 1) inner
        place source bounds n
      | .call, [callee, .absent] => do
        let c ← lower limits source (depth.below 1) callee
        place source bounds (.call c [] none)
      | .call, [callee, .node _ _ arguments] => do
        let c ← lower limits source (depth.below 1) callee
        let as ← lowerAll limits source (depth.below 2) arguments
        place source bounds (.call c as none)
      | .arguments, _ => refuse (.unsupported Rule.arguments.label) source bounds
      | .other name, _ => refuse (.unsupported name) source bounds
      | rule, _ => .error (.malformed rule.label)

def lowerAll (limits : Limits) (source : Text) (depth : Depth) :
    List Phrase → Except Fault (List (Node η))
  | [] => .ok []
  | phrase :: rest => do
    let n ← lower limits source depth phrase
    let ns ← lowerAll limits source depth rest
    .ok (n :: ns)

end

end Reckoner.Node
