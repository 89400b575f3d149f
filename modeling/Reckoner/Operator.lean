import Reckoner.Number.Binary64

/-! # Operators -/
namespace Reckoner

inductive Operator
  | plus
  | minus
  | times
  | divide
  deriving DecidableEq, BEq

namespace Operator

def symbol : Operator → Char
  | .plus => '+'
  | .minus => '-'
  | .times => '*'
  | .divide => '/'

/-- How tightly an operator binds: products before sums. -/
def strength : Operator → Nat
  | .plus | .minus => 1
  | .times | .divide => 2

/-- Division by a zero is infinite with the sign of both operands, and undefined for a dividend
that is zero or undefined itself. -/
def quotient (x y : Float) : Float :=
  if y == 0 then
    if x == 0 || x.isNaN then Binary64.notANumber
    else Binary64.ofBits (Binary64.isNegative x != Binary64.isNegative y) Binary64.infinityBits
  else x / y

def apply : Operator → Float → Float → Float
  | .plus, x, y => x + y
  | .minus, x, y => x - y
  | .times, x, y => x * y
  | .divide, x, y => quotient x y

end Operator

end Reckoner
