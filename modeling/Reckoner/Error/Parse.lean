import Reckoner.Error.Context
import Reckoner.Text.Quoted
import Reckoner.Text.Utf8

/-! # Errors of a source

Why a source could not be compiled, as a cause with its message, and where. `stated` is an error
that a caller words itself.
-/
namespace Reckoner

inductive ParseError.Kind
  | invalidEncoding
  | invalidToken
  | unexpectedToken
  | incompleteInput
  | nestingTooDeep
  deriving DecidableEq

inductive ParseError.Cause
  | invalidBytes (fault : Utf8.Fault)
  | surrogate
  | invalidCharacter (c : Option Char)
  | unexpectedToken (text : Text)
  | unexpectedInput (shown : Text)
  | ended
  | nestingLimit (limit : Nat)
  | stackExhausted
  | unsupported (rule : Text)
  | leafExpected (rule : Text) (found : String)
  | stated (kind : ParseError.Kind) (message : Text)
  deriving DecidableEq

structure ParseError where
  cause : ParseError.Cause
  context : Option ErrorContext
  deriving DecidableEq

namespace ParseError

def Kind.all : List Kind :=
  [.invalidEncoding, .invalidToken, .unexpectedToken, .incompleteInput, .nestingTooDeep]

def Kind.name : Kind → String
  | .invalidEncoding => "invalid_encoding"
  | .invalidToken => "invalid_token"
  | .unexpectedToken => "unexpected_token"
  | .incompleteInput => "incomplete_input"
  | .nestingTooDeep => "nesting_too_deep"

def Cause.kind : Cause → Kind
  | .invalidBytes _ | .surrogate => .invalidEncoding
  | .invalidCharacter _ => .invalidToken
  | .unexpectedToken _ | .unexpectedInput _ | .unsupported _ | .leafExpected .. => .unexpectedToken
  | .ended => .incompleteInput
  | .nestingLimit _ | .stackExhausted => .nestingTooDeep
  | .stated kind _ => kind

/-- The message without a position. -/
def Cause.message : Cause → Text
  | .invalidBytes fault => "Source is not valid UTF-8: ".toList ++ fault.message.toList
  | .surrogate => "Source is not encodable as UTF-8: surrogates not allowed".toList
  | .invalidCharacter c => "Invalid token: ".toList ++ Text.quoted c.toList
  | .unexpectedToken text => "Unexpected token: ".toList ++ Text.quoted text
  | .unexpectedInput shown => "Unexpected input: ".toList ++ shown
  | .ended => "Expression ended unexpectedly".toList
  | .nestingLimit limit => "Expression nesting exceeds the limit of ".toList ++ Text.ofNat limit
  | .stackExhausted => "Expression nesting exceeds the interpreter recursion limit".toList
  | .unsupported rule => "Unsupported production: ".toList ++ rule
  | .leafExpected rule found =>
    "Expected a token in ".toList ++ rule ++ ", got ".toList ++ found.toList
  | .stated _ message => message

def kind (error : ParseError) : Kind := error.cause.kind

def message (error : ParseError) : Text := error.cause.message

def located (cause : Cause) (source : List CodePoint) (offset : Int) : ParseError :=
  ⟨cause, some (.clamped source offset)⟩

def unlocated (cause : Cause) : ParseError := ⟨cause, none⟩

/-- An error with a position if both a source and an offset are known. -/
def make (cause : Cause) : Option (List CodePoint) → Option Int → ParseError
  | some source, some offset => located cause source offset
  | _, _ => unlocated cause

def report (error : ParseError) : List CodePoint :=
  match error.context with
  | some context => context.format ++ CodePoint.ofText ('\n' :: error.message)
  | none => CodePoint.ofText error.message

end ParseError

end Reckoner
