import Reckoner.Text

/-! # Code points

A source handed over as numbers may hold lone surrogates, which are code points but no
characters. A code point is therefore a character or a surrogate, and text that is all
characters is recovered by `characters?`.
-/
namespace Reckoner

inductive CodePoint
  | scalar (c : Char)
  | surrogate (index : Fin 0x800)
  deriving DecidableEq, BEq

namespace CodePoint

def ofNat? (n : Nat) : Option CodePoint :=
  if h : 0xd800 ≤ n ∧ n < 0xe000 then some (.surrogate ⟨n - 0xd800, by omega⟩)
  else if n < 0x110000 then some (.scalar (Char.ofNat n))
  else none

def number : CodePoint → Nat
  | .scalar c => c.toNat
  | .surrogate index => 0xd800 + index

/-- A character stands for itself; a surrogate is shown by its number. -/
def shown : CodePoint → Text
  | .scalar c => [c]
  | .surrogate index => '\\' :: 'u' :: Text.hex 4 (0xd800 + index)

def isSurrogate : CodePoint → Bool
  | .scalar _ => false
  | .surrogate _ => true

def ofText (text : Text) : List CodePoint := text.map .scalar

def shownText (points : List CodePoint) : Text := points.flatMap shown

/-- The text made of these code points, or the offset of the first surrogate. -/
def characters? : List CodePoint → Except Nat Text
  | [] => .ok []
  | .surrogate _ :: _ => .error 0
  | .scalar c :: rest =>
    match characters? rest with
    | .ok text => .ok (c :: text)
    | .error offset => .error (offset + 1)

theorem characters?_ofText (text : Text) : characters? (ofText text) = .ok text := by
  induction text with
  | nil => rfl
  | cons c rest ih =>
    change characters? (.scalar c :: ofText rest) = _
    simp [characters?, ih]

end CodePoint

end Reckoner
