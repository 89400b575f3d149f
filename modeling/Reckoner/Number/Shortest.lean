import Reckoner.Number.Binary64

/-! # Shortest decimal digits

The decimal numbers that read back as a given double fill an interval around it. Its ends lie
halfway to the neighbouring doubles and belong to it when the mantissa is even. On the grid of
decimals with `n` digits only the two neighbours of the double can be nearest to it, so the
shortest form is found by testing those for `n = 1, 2, …` until one lies in the interval;
seventeen digits always suffice.
-/
namespace Reckoner.Shortest
open Binary64

/-- A positive rational in quarters of the last place: the double itself, both ends of its
interval, and whether the ends belong to it. -/
structure Interval where
  low : Nat
  value : Nat
  high : Nat
  den : Nat
  closed : Bool

/-- The interval of a positive finite double. Below a power of two the spacing halves. -/
def Interval.ofFloat (x : Float) : Interval :=
  let m := mantissa x
  let e := exponent x - 2
  let down := if m = twoTo 52 ∧ 1 < biasedExponent x then 1 else 2
  let unit := if 0 ≤ e then twoTo e.toNat else 1
  let den := if 0 ≤ e then 1 else twoTo (-e).toNat
  ⟨(4 * m - down) * unit, 4 * m * unit, (4 * m + 2) * unit, den, m % 2 = 0⟩

def Interval.contains (i : Interval) (num den : Nat) : Bool :=
  if i.closed then i.low * den ≤ num * i.den && num * i.den ≤ i.high * den
  else i.low * den < num * i.den && num * i.den < i.high * den

def power (digits : Nat) (exponent : Int) : Nat × Nat :=
  if 0 ≤ exponent then (digits * tenTo exponent.toNat, 1) else (digits, tenTo (-exponent).toNat)

/-- The number of digits before the point, negative for zeros after it. -/
def magnitude (num den : Nat) : Int :=
  ((Nat.toDigits 10 (num * tenTo 340 / den)).length : Int) - 340

/-- The neighbours of the value on the grid of step `10 ^ place` that lie in the interval,
reduced to the nearer one and of two equally near ones to the even one. -/
def Interval.onGrid? (i : Interval) (place : Int) : Option Nat :=
  let scaled := if place < 0 then (i.value * tenTo (-place).toNat, i.den)
    else (i.value, i.den * tenTo place.toNat)
  let below := scaled.1 / scaled.2
  let rest := 2 * (scaled.1 % scaled.2)
  let inside (d : Nat) := let p := power d place; i.contains p.1 p.2
  match inside below, inside (below + 1) with
  | true, true =>
    some (if rest < scaled.2 ∨ (rest = scaled.2 ∧ below % 2 = 0) then below else below + 1)
  | true, false => some below
  | false, true => some (below + 1)
  | false, false => none

/-- Tries grids of one, two, … digits. -/
def search (i : Interval) (top : Int) : Nat → Nat → Nat × Int
  | 0, tried => (i.value / i.den, top - tried)
  | left + 1, tried =>
    let place := top - (tried + 1)
    match i.onGrid? place with
    | some digits => (digits, place)
    | none => search i top left (tried + 1)

/-- The fewest digits, as an integer, and the power of ten they are multiplied by. -/
def digits (x : Float) : Nat × Int :=
  let i := Interval.ofFloat x
  search i (magnitude i.value i.den) 17 0

end Reckoner.Shortest
