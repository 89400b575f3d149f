import Reckoner.Console.Wrap

/-! # Lines on the console

A console has no use for some control characters and drops them, it moves to the next eighth
column at a tab, and it wraps lines at its width.
-/
namespace Reckoner.Layout

def width : Nat := 2000

/-- Bell, backspace, vertical tab, form feed and carriage return. -/
def isDropped (c : Char) : Bool :=
  c.toNat == 7 || c.toNat == 8 || c.toNat == 0xb || c.toNat == 0xc || c.toNat == 0xd

/-- The text of pieces between tabs, from a column on. A tab is at least one space. -/
def expandPieces (column : Nat) : List Text → Text
  | [] => []
  | [last] => last
  | piece :: rest =>
    let shown := piece ++ [' ']
    let stop := column + Glyph.columnsOf shown
    let filler := (8 - stop % 8) % 8
    shown ++ List.replicate filler ' ' ++ expandPieces (stop + filler) rest

def expandTabs (line : Text) : Text := expandPieces 0 (Text.splitAt (· == '\t') line)

def linesIn (columns : Nat) (text : Text) : List Text :=
  if columns = 0 then []
  else (Text.lines (text.filter fun c => !isDropped c)).flatMap fun line =>
    Wrap.lines columns (expandTabs line)

def lines (text : Text) : List Text := linesIn width text

def printed (lines : List Text) : Text := lines.flatMap (· ++ ['\n'])

end Reckoner.Layout
