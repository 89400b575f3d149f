import Reckoner.Operator
import Reckoner.Token

/-! # Phrases

The phrase structure of an expression: which rule was applied where, and to what. Parentheses are
still there, and a call's arguments are one phrase, absent when there are none. The bounds of a
phrase are plain integers, since phrases may also be built by hand.
-/
namespace Reckoner

inductive Rule
  | number
  | reference
  | binary (op : Operator)
  | negate
  | parens
  | call
  | arguments
  | other (name : Text)
  deriving DecidableEq

inductive Phrase
  | leaf (kind : String) (text : Text)
  | node (rule : Rule) (bounds : Option (Int × Int)) (parts : List Phrase)
  | absent

namespace Rule

def all : List Rule :=
  [.number, .reference, .binary .plus, .binary .minus, .binary .times, .binary .divide, .negate,
    .parens, .call, .arguments]

def label : Rule → Text
  | .number => "number".toList
  | .reference => "variable".toList
  | .binary .plus => "add".toList
  | .binary .minus => "subtract".toList
  | .binary .times => "multiply".toList
  | .binary .divide => "divide".toList
  | .negate => "negate".toList
  | .parens => "parens".toList
  | .call => "call".toList
  | .arguments => "arguments".toList
  | .other name => name

/-- The rule called `name`, of the grammar if it has one of that name. -/
def ofLabel (name : Text) : Rule := (all.find? fun rule => rule.label == name).getD (.other name)

end Rule

end Reckoner
