import Reckoner.Number.Power

/-! # Double-precision numbers as exact integers

A finite double is `± mantissa · 2 ^ exponent`. Reading takes the bit pattern apart, and
`nearestBits` goes the other way from any nonnegative rational: it scales the quotient to
fifty-three bits, or to the fixed step of the subnormal range, and rounds to nearest with ties to
even.
-/
namespace Reckoner.Binary64

def isNegative (x : Float) : Bool := twoTo 63 ≤ x.toBits.toNat

def biasedExponent (x : Float) : Nat := x.toBits.toNat / twoTo 52 % twoTo 11

def fraction (x : Float) : Nat := x.toBits.toNat % twoTo 52

/-- The integer that the magnitude is a multiple of a power of two by. -/
def mantissa (x : Float) : Nat :=
  if biasedExponent x = 0 then fraction x else twoTo 52 + fraction x

def exponent (x : Float) : Int :=
  if biasedExponent x = 0 then -1074 else (biasedExponent x : Int) - 1075

/-- The quotient of a rational by `2 ^ e`, again as numerator and denominator. -/
def scale (num den : Nat) (e : Int) : Nat × Nat :=
  if e < 0 then (num * twoTo (-e).toNat, den) else (num, den * twoTo e.toNat)

def roundHalfEven (num den : Nat) : Nat :=
  let q := num / den
  let r := num % den
  if 2 * r < den then q
  else if den < 2 * r then q + 1
  else if q % 2 = 0 then q else q + 1

/-- The exponent of the last place kept of `num / den`. -/
def lastPlace (num den : Nat) : Int :=
  let guess : Int := (Nat.log2 num : Int) - Nat.log2 den - 52
  let scaled := scale num den guess
  max (-1074) (if scaled.1 / scaled.2 < twoTo 52 then guess - 1 else guess)

def infinityBits : Nat := 2047 * twoTo 52

/-- The bit pattern of the double nearest to `num / den`, infinity from the midpoint beyond the
largest finite one on. -/
def nearestBits (num den : Nat) : Nat :=
  if num = 0 then 0
  else
    let e := lastPlace num den
    let scaled := scale num den e
    let m := roundHalfEven scaled.1 scaled.2
    let bits := if m < twoTo 52 then m else (e + 1075).toNat * twoTo 52 + (m - twoTo 52)
    min bits infinityBits

def ofBits (negative : Bool) (bits : Nat) : Float :=
  Float.ofBits (UInt64.ofNat (if negative then bits + twoTo 63 else bits))

def infinity : Float := ofBits false infinityBits

def notANumber : Float := ofBits false (infinityBits + twoTo 51)

def ofInt (n : Int) : Float := ofBits (n < 0) (nearestBits n.natAbs 1)

def toInt? (x : Float) : Option Int :=
  if biasedExponent x = 2047 then none
  else
    let magnitude :=
      if 0 ≤ exponent x then some (mantissa x * twoTo (exponent x).toNat)
      else if mantissa x % twoTo (-exponent x).toNat = 0 then
        some (mantissa x / twoTo (-exponent x).toNat)
      else none
    magnitude.map fun m => if isNegative x then -(m : Int) else m

def hexBits (x : Float) : List Char :=
  let digits := Nat.toDigits 16 x.toBits.toNat
  List.replicate (16 - digits.length) '0' ++ digits

end Reckoner.Binary64
