import Reckoner.Number.Shortest
import Reckoner.Text

/-! # Written numbers

A number is written with the fewest digits that read back as it. From `0.0001` up to sixteen
digits before the point the notation is positional and always shows a decimal; outside that range
the exponent follows with its sign and at least two digits.
-/
namespace Reckoner.Written

/-- Removes the zeros at the end, counting them. -/
def stripZeros (digits : Text) : Text × Nat :=
  let kept := (digits.reverse.dropWhile (· == '0')).reverse
  (kept, digits.length - kept.length)

/-- The digits `d₁d₂…` of a number `0.d₁d₂… · 10 ^ point` in positional notation. -/
def positional (digits : Text) (point : Int) : Text :=
  if point ≤ 0 then '0' :: '.' :: List.replicate (-point).toNat '0' ++ digits
  else if digits.length ≤ point.toNat then
    digits ++ List.replicate (point.toNat - digits.length) '0' ++ ['.', '0']
  else digits.take point.toNat ++ '.' :: digits.drop point.toNat

def exponential (digits : Text) (point : Int) : Text :=
  let e := point - 1
  let mark := if e < 0 then '-' else '+'
  let exponent := Text.ofNat e.natAbs
  let padding := List.replicate (2 - exponent.length) '0'
  let tail := digits.drop 1
  digits.take 1 ++ (if tail.isEmpty then [] else '.' :: tail) ++ 'e' :: mark :: padding ++ exponent

def finite (digits : Nat) (exponent : Int) : Text :=
  let kept := stripZeros (Text.ofNat digits)
  let point := (kept.1.length : Int) + kept.2 + exponent
  if -4 < point ∧ point ≤ 16 then positional kept.1 point else exponential kept.1 point

def number (x : Float) : Text :=
  if x.isNaN then "nan".toList
  else
    let magnitude :=
      if Binary64.biasedExponent x = 2047 then "inf".toList
      else if Binary64.mantissa x = 0 then "0.0".toList
      else let d := Shortest.digits x; finite d.1 d.2
    if Binary64.isNegative x then '-' :: magnitude else magnitude

end Reckoner.Written
