import Reckoner.Number.Decimal
import Reckoner.Value

/-! # Bindings given as text

`NAME=VALUE` binds a name. What follows the first equals sign is a number if it reads as one, a
reference if it is a name, and otherwise text as it stands.
-/
namespace Reckoner

inductive Binding.Fault
  | notABinding (given : Text)
  deriving DecidableEq

namespace Binding
variable {η : Type}

def Fault.message : Fault → Text
  | .notABinding given => "Expected NAME=VALUE, got ".toList ++ Text.quoted given

def valueOf (raw : Text) : Value η :=
  match Decimal.readLoose? raw with
  | some x => .number x
  | none => if Text.isName raw then .reference raw else .text raw

def read (binding : Text) : Except Fault (Text × Value η) :=
  let name := Text.trim Blank.isSpace (binding.takeWhile (· != '='))
  match binding.dropWhile (· != '=') with
  | _ :: raw =>
    if Text.isName name then .ok (name, valueOf (Text.trim Blank.isSpace raw))
    else .error (.notABinding binding)
  | [] => .error (.notABinding binding)

end Binding

end Reckoner
