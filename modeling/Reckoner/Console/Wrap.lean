import Reckoner.Text.Blank
import Reckoner.Text.Glyph

/-! # Wrapped lines

A line that is too wide is broken between words, a word keeping the blanks after it. A word that
is wider than a whole line is folded between glyphs. Blanks at the end of a line do not push
their word to the next line and may be cut off.
-/
namespace Reckoner.Wrap

/-- The words of a line with the blanks that follow them, the first also with those before it.
A line of blanks has no words. -/
def words (line : Text) : List Text :=
  let leading := line.takeWhile Blank.isSpace
  let rest := line.dropWhile Blank.isSpace
  match rest.splitBy fun a b => !Blank.isSpace a || Blank.isSpace b with
  | [] => []
  | word :: more => (leading ++ word) :: more

def bareColumns (word : Text) : Nat :=
  Glyph.columnsOf (word.reverse.dropWhile Blank.isSpace).reverse

def foldFrom (width : Nat) (piece : Text) (used : Nat) : List Glyph → List Text
  | [] => if used = 0 then [] else [piece]
  | g :: rest =>
    if used + g.columns ≤ width then foldFrom width (piece ++ g.text) (used + g.columns) rest
    else piece :: foldFrom width g.text g.columns rest

def fold (width : Nat) (word : Text) : List Text := foldFrom width [] 0 (Glyph.split word)

/-- The lines that hold a line begun, of which `used` columns are taken, and the words after it. -/
def place (width : Nat) (line : Text) (used : Nat) : List Text → List Text
  | [] => [line]
  | word :: rest =>
    if used + bareColumns word ≤ width then
      place width (line ++ word) (used + Glyph.columnsOf word) rest
    else if bareColumns word ≤ width then
      line :: place width word (Glyph.columnsOf word) rest
    else
      let pieces := fold width word
      let last := pieces.getLast?.getD []
      let before := if line.isEmpty then pieces.dropLast else line :: pieces.dropLast
      before ++ place width last (Glyph.columnsOf last) rest

/-- Drops blanks at the end while there are more than `width` characters. -/
def dropBlankEnd (width : Nat) (line : Text) : Text :=
  let blanks := (line.reverse.takeWhile Blank.isSpace).length
  line.take (line.length - min blanks (line.length - width))

/-- The glyphs that fit in `width` columns, and a blank where half a glyph would fit. -/
def cut (width : Nat) : List Glyph → Text
  | [] => []
  | g :: rest =>
    if g.columns ≤ width then g.text ++ cut (width - g.columns) rest
    else if width = 0 then []
    else [' ']

def truncate (width : Nat) (line : Text) : Text :=
  if Glyph.columnsOf line ≤ width then line else cut width (Glyph.split line)

def lines (width : Nat) (line : Text) : List Text :=
  match words line with
  | [] => [truncate width (dropBlankEnd width line)]
  | ws => (place width [] 0 ws).map fun l => truncate width (dropBlankEnd width l)

end Reckoner.Wrap
