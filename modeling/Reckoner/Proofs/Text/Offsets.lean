import Reckoner.Proofs.Text.Utf8
import Reckoner.Span

/-! # Offsets in bytes

Every boundary between characters has its offset in bytes, and later boundaries have larger ones. So
a span keeps its place among the spans of a source when it is counted in bytes, and the bytes it
selects are those its text is written as. The two ways of counting agree on text of one byte each.
-/
namespace Reckoner

namespace Utf8

@[simp] theorem size_cons (c : Char) (text : Text) : size (c :: text) = c.utf8Size + size text :=
  rfl

@[simp] theorem size_append (front back : Text) :
    size (front ++ back) = size front + size back := by
  induction front with
  | nil => exact (Nat.zero_add _).symm
  | cons c front ih => simp [ih, Nat.add_assoc]

@[simp] theorem encode_nil : encode [] = [] := rfl

@[simp] theorem encode_cons (c : Char) (text : Text) :
    encode (c :: text) = String.utf8EncodeChar c ++ encode text := List.flatMap_cons

@[simp] theorem encode_append (front back : Text) :
    encode (front ++ back) = encode front ++ encode back := List.flatMap_append

theorem length_encode (text : Text) : (encode text).length = size text := by
  induction text with
  | nil => rfl
  | cons c text ih => simp [ih]

theorem length_le_size (text : Text) : text.length ≤ size text := by
  induction text with
  | nil => exact Nat.le_refl 0
  | cons c text ih =>
    have hc := c.utf8Size_pos
    simp only [List.length_cons, size_cons]
    omega

/-- The boundaries of a text are in the same order in bytes. -/
theorem size_take_le_iff {text : Text} {i j : Nat} (hi : i ≤ text.length) :
    size (text.take i) ≤ size (text.take j) ↔ i ≤ j := by
  have hsplit (m n : Nat) : size (text.take (m + n)) =
      size (text.take m) + size ((text.drop m).take n) := by rw [List.take_add, size_append]
  constructor
  · intro h
    apply Nat.le_of_not_lt
    intro hlt
    -- what stands between the two boundaries has characters, and so bytes
    have hs := hsplit j (i - j)
    have hl := length_le_size ((text.drop j).take (i - j))
    rw [List.length_take_of_le (by rw [List.length_drop]; omega)] at hl
    rw [Nat.add_sub_cancel' (by omega)] at hs
    omega
  · intro h
    have hs := hsplit i (j - i)
    rw [Nat.add_sub_cancel' h] at hs
    omega

theorem encode_eq_append (text : Text) (i : Nat) :
    encode text = encode (text.take i) ++ encode (text.drop i) := by
  rw [← encode_append, List.take_append_drop]

theorem take_encode (text : Text) (i : Nat) :
    (encode text).take (size (text.take i)) = encode (text.take i) := by
  rw [encode_eq_append text i, ← length_encode, List.take_left]

theorem drop_encode (text : Text) (i : Nat) :
    (encode text).drop (size (text.take i)) = encode (text.drop i) := by
  rw [encode_eq_append text i, ← length_encode, List.drop_left]

theorem size_ascii {text : Text} (h : ∀ c ∈ text, c.toNat < 0x80) : size text = text.length := by
  induction text with
  | nil => rfl
  | cons c text ih =>
    obtain ⟨hc, ht⟩ := List.forall_mem_cons.mp h
    have hone : c.utf8Size = 1 := by rw [← String.length_utf8EncodeChar, form_one hc]; rfl
    simp [ih ht, hone, Nat.add_comm]

end Utf8

namespace Span
open Utf8 (encode decode size)

def slice {α : Type} (span : Span) (items : List α) : List α :=
  (items.drop span.start).take (span.stop - span.start)

section Bytes
variable {span other : Span} {source : Text}

theorem bytes_stop (h : span.Within source.length) :
    (span.bytes source).stop = size (source.take span.stop) := by
  have hs : span.stop = span.start + (span.stop - span.start) := (Nat.add_sub_cancel' h.1).symm
  rw [hs, List.take_add, Utf8.size_append]
  rfl

theorem bytes_within (h : span.Within source.length) :
    (span.bytes source).Within (encode source).length := by
  refine ⟨Nat.le_add_right _ _, ?_⟩
  have hle : size (source.take span.stop) ≤ size (source.take source.length) :=
    (Utf8.size_take_le_iff h.2).mpr h.2
  rw [List.take_length] at hle
  rw [bytes_stop h, Utf8.length_encode]
  exact hle

/-- The bytes of a span are those that its text is written as. -/
theorem slice_bytes (span : Span) (source : Text) :
    (span.bytes source).slice (encode source) = encode (span.text source) := by
  have hl : (span.bytes source).stop - (span.bytes source).start = size (span.text source) :=
    Nat.add_sub_cancel_left _ _
  rw [slice, hl, bytes, Utf8.drop_encode]
  exact Utf8.take_encode _ _

theorem bytes_ascii (h : span.Within source.length) (ha : ∀ c ∈ source, c.toNat < 0x80) :
    span.bytes source = span := by
  have hi {i : Nat} (hi : i ≤ source.length) : size (source.take i) = i := by
    rw [Utf8.size_ascii fun c hc => ha c (List.mem_of_mem_take hc), List.length_take_of_le hi]
  have hstop := bytes_stop h
  rw [hi h.2] at hstop
  have hstart : (span.bytes source).start = span.start := hi (Nat.le_trans h.1 h.2)
  generalize span.bytes source = b at hstart hstop
  cases b
  cases hstart
  cases hstop
  rfl

/-- Two spans of a source start, stop and follow each other in bytes as they do in characters. -/
theorem bytes_order (h : span.Within source.length) (ho : other.Within source.length) :
    (span.start ≤ other.start ↔ (span.bytes source).start ≤ (other.bytes source).start) ∧
    (span.stop ≤ other.stop ↔ (span.bytes source).stop ≤ (other.bytes source).stop) ∧
    (span.stop ≤ other.start ↔ (span.bytes source).stop ≤ (other.bytes source).start) ∧
    (span.start ≤ other.stop ↔ (span.bytes source).start ≤ (other.bytes source).stop) := by
  have hstart : span.start ≤ source.length := Nat.le_trans h.1 h.2
  rw [bytes_stop h, bytes_stop ho]
  exact ⟨(Utf8.size_take_le_iff hstart).symm, (Utf8.size_take_le_iff h.2).symm,
    (Utf8.size_take_le_iff h.2).symm, (Utf8.size_take_le_iff hstart).symm⟩

end Bytes

end Span

end Reckoner
