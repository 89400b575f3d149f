import Reckoner.Console.Layout
import Reckoner.Console.Markup
import Reckoner.Node

/-! # Outlines of trees

A tree is shown one node per line with lines that lead from each node to its children. A node is
described by its label and, if it has a span, by the span and the text there. A description of
several lines keeps them together beside the lines of the tree, which leave it less room the
deeper it is.
-/
namespace Reckoner.Outline
variable {η : Type}

def describe (source : Text) (node : Node η) : Text :=
  match node.span with
  | none => Markup.escape node.label
  | some span =>
    Markup.escape node.label ++ " [dim]".toList ++ span.written ++ [' '] ++
      Markup.escape (Text.quoted (span.text source)) ++ "[/dim]".toList

def nodeLines (source : Text) (columns : Nat) (node : Node η) : Except Markup.Fault (List Text) :=
  (Markup.render (describe source node)).map (Layout.linesIn columns)

/-- Puts `first` before the first line and `later` before the others. -/
def indent (first later : Text) : List Text → List Text
  | [] => []
  | line :: rest => (first ++ line) :: rest.map (later ++ ·)

/-- The columns that lead to a child. -/
def lead : Nat := 4

def branch (last : Bool) (lines : List Text) : List Text :=
  if last then indent "└── ".toList "    ".toList lines
  else indent "├── ".toList "│   ".toList lines

def branches : List (List Text) → List Text
  | [] => []
  | [child] => branch true child
  | child :: rest => branch false child ++ branches rest

def withChildren (own : List Text) (children : List (List Text)) : List Text :=
  own ++ branches children

mutual

def lines (source : Text) (columns : Nat) : Node η → Except Markup.Fault (List Text)
  | .value v span => nodeLines source columns (.value v span)
  | .binary op left right span => do
    let own ← nodeLines source columns (.binary op left right span)
    let l ← lines source (columns - lead) left
    let r ← lines source (columns - lead) right
    pure (withChildren own [l, r])
  | .negate operand span => do
    let own ← nodeLines source columns (.negate operand span)
    let l ← lines source (columns - lead) operand
    pure (withChildren own [l])
  | .call callee arguments span => do
    let own ← nodeLines source columns (.call callee arguments span)
    let l ← lines source (columns - lead) callee
    let ls ← linesAll source (columns - lead) arguments
    pure (withChildren own (l :: ls))

def linesAll (source : Text) (columns : Nat) :
    List (Node η) → Except Markup.Fault (List (List Text))
  | [] => .ok []
  | n :: ns => do
    let l ← lines source columns n
    let ls ← linesAll source columns ns
    pure (l :: ls)

end

def print (source : Text) (root : Node η) : Except Markup.Fault Text :=
  (lines source Layout.width root).map Layout.printed

end Reckoner.Outline
