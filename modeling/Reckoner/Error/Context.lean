import Reckoner.Text.CodePoint

/-! # Where an error is

An error points at an offset of its source. Its line is one more than the number of line ends
before the offset, its column counts from the last of them, and `format` shows the line with a
caret under the column. An offset past the end stays on the last line; a negative one counts the
line ends before that many places from the end, and its column may be negative too.
-/
namespace Reckoner

structure ErrorContext where
  source : List CodePoint
  offset : Int
  deriving DecidableEq

namespace ErrorContext

def isLineEnd (point : CodePoint) : Bool := point == .scalar '\n'

def before (context : ErrorContext) : List CodePoint :=
  let length := context.source.length
  context.source.take
    (if context.offset < 0 then (length + context.offset).toNat else context.offset.toNat)

def line (context : ErrorContext) : Nat := context.before.countP isLineEnd + 1

def lineStart (context : ErrorContext) : Nat :=
  context.before.length - (context.before.reverse.takeWhile fun p => !isLineEnd p).length

def column (context : ErrorContext) : Int := context.offset - context.lineStart + 1

def sourceLine (context : ErrorContext) : List CodePoint :=
  (Text.splitAt isLineEnd context.source).getD (context.line - 1) []

/-- The line number in at least four places, and a rule. -/
def gutter (context : ErrorContext) : Text :=
  let number := Text.ofNat context.line
  List.replicate (4 - number.length) ' ' ++ number ++ " | ".toList

def indent (context : ErrorContext) : Nat := (context.gutter.length + context.column - 1).toNat

def format (context : ErrorContext) : List CodePoint :=
  CodePoint.ofText (Text.ofNat context.line ++ ':' :: Text.ofInt context.column ++ ['\n'] ++
      context.gutter) ++
    context.sourceLine ++
    CodePoint.ofText ('\n' :: List.replicate context.indent ' ' ++ ['^'])

/-- A context whose offset is moved into the source. -/
def clamped (source : List CodePoint) (offset : Int) : ErrorContext :=
  ⟨source, max 0 (min offset source.length)⟩

end ErrorContext

end Reckoner
