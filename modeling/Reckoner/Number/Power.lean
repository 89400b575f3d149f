/-! # Powers of two and of ten

The bases in which numbers are held and written.
-/
namespace Reckoner

def twoTo (n : Nat) : Nat := Nat.pow 2 n

def tenTo (n : Nat) : Nat := Nat.pow 10 n

end Reckoner
