import Reckoner.Text

/-! # Complaints about data

What can be wrong with a value that should become a setting or a position, and where it was found.
-/
namespace Reckoner

inductive Complaint.Cause
  | integerExpected
  | integerText
  | integerSize
  | integerFraction
  | integerFinite
  | atLeast (bound : Int)
  | atMost (bound : Int)
  | booleanExpected
  | booleanText
  | numberExpected
  | numberText
  | tableExpected
  | textExpected
  | settingsExpected
  | outsideSource (start stop : Int) (length : Nat)
  deriving DecidableEq

structure Complaint where
  path : List Text
  cause : Complaint.Cause
  deriving DecidableEq

namespace Complaint

def Cause.kind : Cause → String
  | .integerExpected => "int_type"
  | .integerText => "int_parsing"
  | .integerSize => "int_parsing_size"
  | .integerFraction => "int_from_float"
  | .integerFinite => "finite_number"
  | .atLeast _ => "greater_than_equal"
  | .atMost _ => "less_than_equal"
  | .booleanExpected => "bool_type"
  | .booleanText => "bool_parsing"
  | .numberExpected => "float_type"
  | .numberText => "float_parsing"
  | .tableExpected => "dict_type"
  | .textExpected => "string_type"
  | .settingsExpected => "model_type"
  | .outsideSource .. => "value_error"

def Cause.message : Cause → Text
  | .integerExpected => "Input should be a valid integer".toList
  | .integerText => "Input should be a valid integer, unable to parse string as an integer".toList
  | .integerSize =>
    "Unable to parse input string as an integer, exceeded maximum size".toList
  | .integerFraction =>
    "Input should be a valid integer, got a number with a fractional part".toList
  | .integerFinite => "Input should be a finite number".toList
  | .atLeast bound => "Input should be greater than or equal to ".toList ++ Text.ofInt bound
  | .atMost bound => "Input should be less than or equal to ".toList ++ Text.ofInt bound
  | .booleanExpected => "Input should be a valid boolean".toList
  | .booleanText => "Input should be a valid boolean, unable to interpret input".toList
  | .numberExpected => "Input should be a valid number".toList
  | .numberText => "Input should be a valid number, unable to parse string as a number".toList
  | .tableExpected => "Input should be a valid dictionary".toList
  | .textExpected => "Input should be a valid string".toList
  | .settingsExpected =>
    "Input should be a valid dictionary or instance of CalcConfig".toList
  | .outsideSource start stop length =>
    "Value error, Range ".toList ++ Text.ofInt start ++ "..".toList ++ Text.ofInt stop ++
      " is outside a source of length ".toList ++ Text.ofNat length

end Complaint

end Reckoner
