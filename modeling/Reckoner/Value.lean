import Reckoner.Number.Written
import Reckoner.Text.Numeral
import Reckoner.Text.Quoted

/-! # Values

What names are bound to and expressions evaluate to. Only numbers take part in arithmetic;
integers and texts are carried through environments and functions; a reference stands for whatever
its name is bound to. A function has a name of its own and a body, one of the standard ones or a
foreign one that the type parameter `η` describes. Functions are equal when their names are,
whatever their bodies do.
-/
namespace Reckoner

inductive Builtin
  | sin
  | cos
  | tan
  | sqrt
  | abs
  | random
  deriving DecidableEq

inductive Body (η : Type)
  | builtin (b : Builtin)
  | foreign (behaviour : η)

structure Function (η : Type) where
  id : Text
  body : Body η

inductive Value (η : Type)
  | number (x : Float)
  | integer (n : Int)
  | text (t : Text)
  | reference (name : Text)
  | function (f : Function η)

namespace Function
variable {η : Type}

instance : BEq (Function η) := ⟨fun f g => f.id == g.id⟩

def shown (f : Function η) : Text := "Function(".toList ++ Text.quoted f.id ++ [')']

end Function

namespace Value
variable {η : Type}

/-- Equality within each kind; numbers compare as numbers do. -/
def beq : Value η → Value η → Bool
  | .number x, .number y => x == y
  | .integer m, .integer n => m == n
  | .text s, .text t => s == t
  | .reference m, .reference n => m == n
  | .function f, .function g => f == g
  | _, _ => false

instance : BEq (Value η) := ⟨beq⟩

def written : Value η → Text
  | .number x => Written.number x
  | .integer n => Text.ofInt n
  | .text t => '"' :: t ++ ['"']
  | .reference name => name
  | .function f => "<function ".toList ++ f.id ++ ['>']

/-- The text in which messages show a value. An integer of too many digits has none: asking for it
is an error of the interpreter. -/
def written? : Value η → Option Text
  | .integer n =>
    if Numeral.longest < (Text.ofNat n.natAbs).length then none else some (Text.ofInt n)
  | v => some v.written

def isReference : Value η → Bool
  | .reference _ => true
  | _ => false

def number? : Value η → Option Float
  | .number x => some x
  | _ => none

end Value

end Reckoner
