import Reckoner.Number.Binary64
import Reckoner.Text.Blank
import Reckoner.Text.Numeral

/-! # Reading decimal numbers

A plain numeral is an optional sign, digits with an optional point, at least one digit, and an
optional exponent; the names of the infinite and the undefined value are read too, in any case.
`readLoose?` is the reader of bound values: it first takes digits of every script, drops blanks
at the ends, and allows an underscore between two digits.
-/
namespace Reckoner.Decimal

/-- The number `digits · 10 ^ exponent`, negated or not. -/
structure Numeral where
  negative : Bool
  digits : Nat
  exponent : Int
  deriving DecidableEq

/-- Any exponent so large or small that the result is infinite or zero gives it without raising
ten to that power. -/
def Numeral.toFloat (n : Numeral) : Float :=
  let size := (Nat.toDigits 10 n.digits).length + n.exponent
  let bits :=
    if n.digits = 0 then 0
    else if 400 < size then Binary64.infinityBits
    else if size < -400 then 0
    else if 0 ≤ n.exponent then Binary64.nearestBits (n.digits * tenTo n.exponent.toNat) 1
    else Binary64.nearestBits n.digits (tenTo (-n.exponent).toNat)
  Binary64.ofBits n.negative bits

def spanDigits (text : Text) : Text × Text :=
  (text.takeWhile Text.isDigit, text.dropWhile Text.isDigit)

def natOf (digits : Text) : Nat := Text.digitsValue 10 (digits.filterMap Text.digit?)

def takeSign : Text → Bool × Text
  | '+' :: rest => (false, rest)
  | '-' :: rest => (true, rest)
  | text => (false, text)

/-- The exponent that is all of the text, zero for no text. -/
def readExponent? : Text → Option Int
  | [] => some 0
  | e :: rest =>
    if e = 'e' ∨ e = 'E' then
      let signed := takeSign rest
      if signed.2.isEmpty || !signed.2.all Text.isDigit then none
      else
        let n := natOf signed.2
        some (if signed.1 then -(n : Int) else n)
    else none

def readUnsigned? (negative : Bool) (text : Text) : Option Numeral :=
  let whole := spanDigits text
  let part := match whole.2 with
    | '.' :: rest => spanDigits rest
    | rest => ([], rest)
  if whole.1.isEmpty && part.1.isEmpty then none
  else
    (readExponent? part.2).map fun e =>
      ⟨negative, natOf (whole.1 ++ part.1), e - part.1.length⟩

def readNamed? (negative : Bool) (text : Text) : Option Float :=
  let name := Text.lower text
  if name = "inf".toList ∨ name = "infinity".toList then
    some (Binary64.ofBits negative Binary64.infinityBits)
  else if name = "nan".toList then some Binary64.notANumber
  else none

def read? (text : Text) : Option Float :=
  let signed := takeSign text
  match readNamed? signed.1 signed.2 with
  | some x => some x
  | none => (readUnsigned? signed.1 signed.2).map Numeral.toFloat

/-- Drops underscores, each of which has to stand between two digits. `before` tells whether the
last character was a digit. -/
def dropUnderscores? (before : Bool) : Text → Option Text
  | [] => some []
  | c :: rest =>
    if c = '_' then
      if before && (rest.head?.map Text.isDigit).getD false then dropUnderscores? false rest
      else none
    else (dropUnderscores? (Text.isDigit c) rest).map (c :: ·)

/-- Reads a numeral written with the digits of any script, blanks around it, and underscores
between digits. -/
def readLoose? (text : Text) : Option Float :=
  (dropUnderscores? false (Numeral.toAscii (Text.trim Blank.isSpace text))).bind read?

end Reckoner.Decimal
