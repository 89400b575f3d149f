import Reckoner.Text.Width

/-! # Glyphs

A terminal draws a character together with those that join it. A joiner glues itself and the
character after it to the one before. An emoji selector gives the last character that takes
columns its emoji form, which may be a column wider. Other characters of no columns join what is
before them.
-/
namespace Reckoner

structure Glyph where
  text : Text
  columns : Nat
  deriving DecidableEq

namespace Glyph

def joiner : Char := '\u200d'
def emojiSelector : Char := '\ufe0f'

/-- The columns that an emoji selector adds after a character. -/
def widening (last : Option Char) : Nat := if last.any Width.hasEmojiForm then 1 else 0

/-- The columns of text. `glued` says that its first character follows a joiner, `last` is the
character before that a selector would act on. -/
def columnsFrom (glued : Bool) (last : Option Char) : Text → Nat
  | [] => 0
  | c :: rest =>
    if glued then columnsFrom false last rest
    else if c = joiner then columnsFrom true last rest
    else if c = emojiSelector then widening last + columnsFrom false none rest
    else if Width.column c = 0 then columnsFrom false last rest
    else Width.column c + columnsFrom false (some c) rest

def columnsOf (text : Text) : Nat := columnsFrom false none text

/-- A glyph with a character joined to it that adds columns of its own or none. -/
def join (glyph : Glyph) (c : Char) (added : Nat) : Glyph :=
  ⟨glyph.text ++ [c], glyph.columns + added⟩

/-- The glyphs from an open one on. -/
def splitFrom (opened : Glyph) (glued : Bool) (last : Option Char) : Text → List Glyph
  | [] => [opened]
  | c :: rest =>
    if glued then splitFrom (opened.join c 0) false last rest
    else if c = joiner then splitFrom (opened.join c 0) true last rest
    else if c = emojiSelector then splitFrom (opened.join c (widening last)) false none rest
    else if Width.column c = 0 then splitFrom (opened.join c 0) false last rest
    else opened :: splitFrom ⟨[c], Width.column c⟩ false (some c) rest

/-- The glyphs of text. What has nothing before it to join is a glyph of no columns. -/
def split : Text → List Glyph
  | [] => []
  | c :: rest =>
    splitFrom ⟨[c], Width.column c⟩ false (if Width.column c = 0 then none else some c) rest

end Glyph

end Reckoner
