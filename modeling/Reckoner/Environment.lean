import Reckoner.Bindings
import Reckoner.Error.Execution
import Reckoner.Value

/-! # Environments

An environment binds names to values, which may be references to other names. Resolving follows
them until it meets something else, an unbound name, or a name for the second time. Every name
passed is bound and new, so the number of bindings bounds the number of steps.
-/
namespace Reckoner

abbrev Environment (η : Type) := Bindings (Value η)

namespace Environment
variable {η : Type}

/-- The names looked up in resolving a value, and what it resolves to. -/
structure Resolution (η : Type) where
  looked : List Text
  result : Except ExecutionError (Value η)

/-- Follows references for as many steps as `left`. -/
def follow (env : Environment η) : Nat → List Text → Value η → Resolution η
  | left, seen, .reference name =>
    if seen.contains name then ⟨[], .error (.cyclicReference name)⟩
    else
      match env.find? name, left with
      | none, _ => ⟨[name], .error (.unknownVariable name)⟩
      | some _, 0 => ⟨[name], .error (.cyclicReference name)⟩
      | some value, left + 1 =>
        let rest := follow env left (name :: seen) value
        ⟨name :: rest.looked, rest.result⟩
  | _, _, value => ⟨[], .ok value⟩

def resolve (env : Environment η) (value : Value η) : Resolution η :=
  follow env env.length [] value

end Environment

end Reckoner
