import Reckoner.Node

/-! # Printed trees

`written` prints a tree as an expression, every operator with two operands in parentheses. `dump`
lists the nodes one per line, each below its parent and two columns further in, with their spans.
-/
namespace Reckoner.Node
variable {η : Type}

mutual

def written : Node η → Text
  | .value v _ => v.written
  | .binary op left right _ =>
    '(' :: left.written ++ [' ', op.symbol, ' '] ++ right.written ++ [')']
  | .negate operand _ => '-' :: operand.written
  | .call callee arguments _ =>
    callee.written ++ '(' :: Text.joined ", ".toList (writtenAll arguments) ++ [')']

def writtenAll : List (Node η) → List Text
  | [] => []
  | n :: ns => n.written :: writtenAll ns

end

def line (depth : Nat) (node : Node η) : Text :=
  List.replicate (2 * depth) ' ' ++ node.label ++
    match node.span with
    | some span => " [".toList ++ span.written ++ [']']
    | none => []

mutual

/-- The lines of a tree at a depth, a node before its children. -/
def dumpLines (depth : Nat) : Node η → List Text
  | .value v span => [line depth (.value v span)]
  | .binary op left right span =>
    line depth (.binary op left right span) ::
      (dumpLines (depth + 1) left ++ dumpLines (depth + 1) right)
  | .negate operand span =>
    line depth (.negate operand span) :: dumpLines (depth + 1) operand
  | .call callee arguments span =>
    line depth (.call callee arguments span) ::
      (dumpLines (depth + 1) callee ++ dumpLinesAll (depth + 1) arguments)

def dumpLinesAll (depth : Nat) : List (Node η) → List Text
  | [] => []
  | n :: ns => dumpLines depth n ++ dumpLinesAll depth ns

end

def dump (node : Node η) : Text := Text.joined ['\n'] (dumpLines 0 node)

end Reckoner.Node
