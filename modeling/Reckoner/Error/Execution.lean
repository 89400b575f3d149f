import Reckoner.Text

/-! # Errors of a run

Why a program could not be evaluated. Values appear as they are written. `reported` is an error
that a called function words itself.
-/
namespace Reckoner

inductive ExecutionError.Kind
  | unknownError
  | unknownVariable
  | parameterError
  | typeMismatch
  | cyclicReference
  | nestingTooDeep
  deriving DecidableEq

inductive ExecutionError
  | nestingLimit (limit : Nat)
  | stackExhausted
  | unknownVariable (name : Text)
  | cyclicReference (name : Text)
  | numbersRequired (operator found : Text)
  | notAFunction (found : Text)
  | notAValue (function shown : Text)
  | failed (function message : Text)
  | argumentCount (expected : Int) (got : Nat)
  | numberExpected (found : Text)
  | noArgumentsExpected (function : Text) (got : Nat)
  | reported (kind : ExecutionError.Kind) (message : Text)
  deriving DecidableEq

namespace ExecutionError

def Kind.all : List Kind :=
  [.unknownError, .unknownVariable, .parameterError, .typeMismatch, .cyclicReference,
    .nestingTooDeep]

def Kind.name : Kind → String
  | .unknownError => "unknown_error"
  | .unknownVariable => "unknown_variable"
  | .parameterError => "parameter_error"
  | .typeMismatch => "type_mismatch"
  | .cyclicReference => "cyclic_reference"
  | .nestingTooDeep => "nesting_too_deep"

def kind : ExecutionError → Kind
  | .nestingLimit _ | .stackExhausted => .nestingTooDeep
  | .unknownVariable _ => .unknownVariable
  | .cyclicReference _ => .cyclicReference
  | .numbersRequired .. | .notAFunction _ | .notAValue .. => .typeMismatch
  | .failed .. => .unknownError
  | .argumentCount .. | .numberExpected _ | .noArgumentsExpected .. => .parameterError
  | .reported kind _ => kind

def message : ExecutionError → Text
  | .nestingLimit limit => "Expression nesting exceeds the limit of ".toList ++ Text.ofNat limit
  | .stackExhausted => "Expression nesting exceeds the interpreter recursion limit".toList
  | .unknownVariable name => "Unknown variable: ".toList ++ name
  | .cyclicReference name => "Variable ".toList ++ name ++ " refers back to itself".toList
  | .numbersRequired operator found =>
    operator ++ " requires numbers, got ".toList ++ found
  | .notAFunction found => found ++ " is not a function".toList
  | .notAValue function shown => function ++ "() returned a non-value: ".toList ++ shown
  | .failed function message => function ++ "() failed: ".toList ++ message
  | .argumentCount expected got =>
    "Expected ".toList ++ Text.ofInt expected ++ " argument(s), got ".toList ++ Text.ofNat got
  | .numberExpected found => "Expected a number, got ".toList ++ found
  | .noArgumentsExpected function got =>
    function ++ "() takes no arguments, got ".toList ++ Text.ofNat got
  | .reported _ message => message

def name? : ExecutionError → Option Text
  | .unknownVariable name | .cyclicReference name => some name
  | _ => none

end ExecutionError

end Reckoner
