import Reckoner.Console.Literal
import Reckoner.Text.Blank
import Reckoner.Text.Letter

/-! # Handlers

A tag whose name starts with an at sign names a handler of events. What it is to be called with is
written after an equals sign: a dotted name, a name with arguments in parentheses, or arguments
alone. The arguments are literals.
-/
namespace Reckoner.Handler

def isHandler (name : Text) : Bool := name.head? == some '@'

/-- The arguments in what is written after the equals sign: nothing after a dotted name, what is
in parentheses, or all of it when it starts with no name. -/
def arguments (written : Text) : Text :=
  let trimmed := Text.trim Blank.isSpace written
  match trimmed.dropWhile fun c => c == '.' || Letter.isWordPart c with
  | [] => "()".toList
  | c :: rest =>
    if c = '(' ∧ rest.getLast? = some ')' ∧ '\n' ∉ rest then c :: rest else trimmed

def isCallable (written : Text) : Bool :=
  written.isEmpty || Literal.isLiteral (arguments written)

end Reckoner.Handler
