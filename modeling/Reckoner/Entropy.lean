/-! # Random numbers

A seed that gives a number in `[0, 1)` and the next seed: the state advances by a fixed odd step,
and its bits are mixed before the upper fifty-three are taken.
-/
namespace Reckoner

structure Entropy where
  seed : UInt64

namespace Entropy

def mix (z : UInt64) : UInt64 :=
  let z := (z ^^^ (z >>> 30)) * 0xbf58476d1ce4e5b9
  let z := (z ^^^ (z >>> 27)) * 0x94d049bb133111eb
  z ^^^ (z >>> 31)

def draw (entropy : Entropy) : Float × Entropy :=
  let seed := entropy.seed + 0x9e3779b97f4a7c15
  ((mix seed >>> 11).toNat.toFloat / 9007199254740992, ⟨seed⟩)

end Entropy

end Reckoner
