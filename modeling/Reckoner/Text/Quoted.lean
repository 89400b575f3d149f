import Reckoner.Text.Printable

/-! # Quoted text

The form in which messages show a text: between quotes, on one line and free of invisible
characters. A single quote is the delimiter unless the text has single quotes and no double ones.
-/
namespace Reckoner.Text

def delimiter (text : Text) : Char :=
  if text.contains '\'' && !text.contains '"' then '"' else '\''

/-- The written form of one character between delimiters `quote`. -/
def escapedChar (quote c : Char) : Text :=
  if c == quote || c == '\\' then ['\\', c]
  else if c == '\n' then ['\\', 'n']
  else if c == '\r' then ['\\', 'r']
  else if c == '\t' then ['\\', 't']
  else if Printable.isPrintable c then [c]
  else if c.toNat < 0x100 then '\\' :: 'x' :: hex 2 c.toNat
  else if c.toNat < 0x10000 then '\\' :: 'u' :: hex 4 c.toNat
  else '\\' :: 'U' :: hex 8 c.toNat

def quoted (text : Text) : Text :=
  let quote := delimiter text
  quote :: text.flatMap (escapedChar quote) ++ [quote]

end Reckoner.Text
