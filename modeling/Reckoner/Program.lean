import Reckoner.Node.Lowering
import Reckoner.Node.Order
import Reckoner.Node.Printer
import Reckoner.Phrase.Parser

/-! # Programs

A program is a source with the tree read from it. Compiling first makes sure that the source is
text, then reads its phrase, then lowers the phrase; each step reports its first fault, so an
encoding error hides every syntax error and a syntax error every excess of depth.
-/
namespace Reckoner

/-- A source as code points or as the bytes of a file. -/
inductive Source
  | points (points : List CodePoint)
  | bytes (bytes : List UInt8)

namespace Source

def ofText (text : Text) : Source := .points (CodePoint.ofText text)

def text : Source → Except ParseError Text
  | .points ps =>
    match CodePoint.characters? ps with
    | .ok t => .ok t
    | .error offset => .error (.located .surrogate ps offset)
  | .bytes bs =>
    match Utf8.decode bs with
    | .ok t => .ok t
    | .error fault => .error (.unlocated (.invalidBytes fault))

end Source

def ParseError.ofFault (source : Text) : SyntaxFault → ParseError
  | .character offset =>
    .located (.invalidCharacter source[offset]?) (CodePoint.ofText source) offset
  | .token _ text start => .make (.unexpectedToken text) (some (CodePoint.ofText source)) start
  | .ended _ => .located .ended (CodePoint.ofText source) source.length
  | .other shown offset =>
    .make (.unexpectedInput shown) (some (CodePoint.ofText source)) offset

structure Program (η : Type) where
  source : Text
  root : Node η

namespace Program
variable {η : Type}

def ofText (limits : Limits) (source : Text) : Except Node.Fault (Program η) :=
  match Phrase.read source with
  | .error fault => .error (.source (.ofFault source fault))
  | .ok phrase =>
    match Node.lower limits source 0 phrase with
    | .ok root => .ok ⟨source, root⟩
    | .error .stackExhausted =>
      .error (.source (.located .stackExhausted (CodePoint.ofText source) 0))
    | .error fault => .error fault

def compile (limits : Limits) (source : Source) : Except Node.Fault (Program η) :=
  match source.text with
  | .error error => .error (.source error)
  | .ok text => ofText limits text

def written (program : Program η) : Text := program.root.written

def dump (program : Program η) : Text := program.root.dump

def nodes (program : Program η) : List (Node η) := program.root.breadthFirst

end Program

end Reckoner
