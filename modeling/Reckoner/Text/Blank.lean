import Reckoner.Text

/-! # Blank characters

Three sets, each the blank of one syntax. `isWhite` is the Unicode property White_Space, `isSpace`
adds the four information separators, `isLayout` is what may stand between the tokens of an
expression.
-/
namespace Reckoner.Blank

def isWhite (c : Char) : Bool :=
  let n := c.toNat
  (0x09 ≤ n && n ≤ 0x0d) || n == 0x20 || n == 0x85 || n == 0xa0 || n == 0x1680 ||
    (0x2000 ≤ n && n ≤ 0x200a) || n == 0x2028 || n == 0x2029 || n == 0x202f || n == 0x205f ||
    n == 0x3000

def isSpace (c : Char) : Bool :=
  isWhite c || (0x1c ≤ c.toNat && c.toNat ≤ 0x1f)

def isLayout (c : Char) : Bool :=
  c == ' ' || c == '\t' || c == '\x0c' || c == '\r' || c == '\n'

end Reckoner.Blank
