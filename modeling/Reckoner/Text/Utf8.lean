import Reckoner.Text

/-! # UTF-8

Reading and writing the byte form of text. A reader stands either between characters or inside
one, where it knows how many bytes are owed and which range the next one must fall in. The
narrower ranges after the bytes E0, ED, F0 and F4 exclude overlong forms, surrogates and numbers
beyond the last code point, so every accepted sequence is the form of exactly one text.
-/
namespace Reckoner.Utf8

inductive Fault
  | invalidStart
  | invalidContinuation
  | unexpectedEnd
  deriving DecidableEq

def Fault.message : Fault → String
  | .invalidStart => "invalid start byte"
  | .invalidContinuation => "invalid continuation byte"
  | .unexpectedEnd => "unexpected end of data"

/-- An unfinished character: bytes owed, the range of the next one, and the bits read so far. -/
structure Pending where
  owed : Nat
  low : Nat
  high : Nat
  bits : Nat

/-- What the first byte of a longer sequence announces. -/
def lead? (b : Nat) : Option Pending :=
  if b < 0xc2 then none
  else if b < 0xe0 then some ⟨1, 0x80, 0xbf, b - 0xc0⟩
  else if b = 0xe0 then some ⟨2, 0xa0, 0xbf, 0⟩
  else if b = 0xed then some ⟨2, 0x80, 0x9f, 0xd⟩
  else if b < 0xf0 then some ⟨2, 0x80, 0xbf, b - 0xe0⟩
  else if b = 0xf0 then some ⟨3, 0x90, 0xbf, 0⟩
  else if b < 0xf4 then some ⟨3, 0x80, 0xbf, b - 0xf0⟩
  else if b = 0xf4 then some ⟨3, 0x80, 0x8f, 4⟩
  else none

def decodeFrom : Option Pending → List UInt8 → Except Fault Text
  | none, [] => .ok []
  | some _, [] => .error .unexpectedEnd
  | none, b :: rest =>
    if b.toNat < 0x80 then (decodeFrom none rest).map (Char.ofNat b.toNat :: ·)
    else
      match lead? b.toNat with
      | none => .error .invalidStart
      | some pending => decodeFrom (some pending) rest
  | some p, b :: rest =>
    if p.low ≤ b.toNat ∧ b.toNat ≤ p.high then
      let bits := p.bits * 0x40 + (b.toNat - 0x80)
      if p.owed ≤ 1 then (decodeFrom none rest).map (Char.ofNat bits :: ·)
      else decodeFrom (some ⟨p.owed - 1, 0x80, 0xbf, bits⟩) rest
    else .error .invalidContinuation

def decode (bytes : List UInt8) : Except Fault Text := decodeFrom none bytes

def encode (text : Text) : List UInt8 := text.flatMap String.utf8EncodeChar

def size (text : Text) : Nat := text.foldr (fun c bytes => c.utf8Size + bytes) 0

end Reckoner.Utf8
