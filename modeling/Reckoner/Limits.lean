/-! # Limits of nesting

How deep expressions may nest. Going deeper than the configured limit is an error of its own. The
interpreter's stack is a limit of another kind: each level of an expression takes places on it, as
many as there are calls from a level to the next, and an argument takes one more, as it is reached
from within a list. What else needs the stack is left out of the count: the command below, and what
is called at the end of a path, for a leaf, an error or a function.
-/
namespace Reckoner

/-- How deep a part of an expression is: the levels around it, and the places on the stack that
these take. -/
@[ext]
structure Depth where
  levels : Nat
  places : Nat
  deriving DecidableEq

namespace Depth

instance : Zero Depth := ⟨⟨0, 0⟩⟩

/-- One level further in, where a level takes so many places. -/
def below (depth : Depth) (places : Nat) : Depth := ⟨depth.levels + 1, depth.places + places⟩

end Depth

structure Limits where
  nesting : Nat
  stack : Nat
  deriving DecidableEq

namespace Limits

def room : Nat := 1000

def defaultNesting : Nat := 256

def ofNesting (nesting : Nat) : Limits := ⟨nesting, room⟩

end Limits

end Reckoner
