import Reckoner.Proofs.Program.Encoding
import Reckoner.Proofs.Program.Locations
import Reckoner.Proofs.Text.Offsets

/-! # Spans in bytes

A span selects the same text of its source in characters and in bytes, and has the same place among
the other spans. What compiles has only characters of one byte, so the spans of a program are at
once ranges of the bytes it was read from.
-/
namespace Reckoner
open Utf8 (encode decode)

namespace Span
variable {span other : Span} {source : Text}

theorem inside_iff (h : span.start ≤ span.stop) : span.Inside other ↔
    (other.start ≤ span.start ∧ span.stop ≤ other.stop) ∧
      ¬(span.start ≤ other.start ∧ other.stop ≤ span.stop) := by
  constructor
  · rintro ⟨hstart, hstop, hlt⟩
    omega
  · rintro ⟨⟨hstart, hstop⟩, hne⟩
    exact ⟨hstart, hstop, by omega⟩

theorem bytes_inside_iff (h : span.Within source.length) (ho : other.Within source.length) :
    (span.bytes source).Inside (other.bytes source) ↔ span.Inside other := by
  obtain ⟨hstart, hstop, -⟩ := bytes_order h ho
  obtain ⟨hstart', hstop', -⟩ := bytes_order ho h
  rw [inside_iff h.1, inside_iff (bytes_within h).1, hstart, hstop, hstart', hstop']

end Span

namespace Program
variable {η : Type}

theorem ascii_of_compile {limits : Limits} {source : Source} {program : Program η}
    (h : compile limits source = .ok program) : ∀ c ∈ program.source, c.toNat < 0x80 := by
  obtain ⟨d, hd, -, -⟩ := compile_eq_ok_iff.mp (compile_source h)
  exact hd.ascii (List.forall_mem_nil _)

/-- The bytes of a span lie inside the bytes of its source, are read as the text of the span, and
are ordered and nested as the spans of the source are. A program that is compiled from bytes has
characters of one byte only, and its spans select their texts in those bytes as they stand. -/
theorem byte_ranges :
    (∀ (source : Text) (span : Span), span.Within source.length →
      (span.bytes source).Within (encode source).length ∧
      decode ((span.bytes source).slice (encode source)) = .ok (span.text source) ∧
      ∀ other : Span, other.Within source.length →
        (span.start ≤ other.start ↔ (span.bytes source).start ≤ (other.bytes source).start) ∧
        (span.stop ≤ other.stop ↔ (span.bytes source).stop ≤ (other.bytes source).stop) ∧
        (span.stop ≤ other.start ↔ (span.bytes source).stop ≤ (other.bytes source).start) ∧
        ((span.bytes source).Inside (other.bytes source) ↔ span.Inside other)) ∧
    ∀ (limits : Limits) (bytes : List UInt8) (program : Program η),
      compile limits (.bytes bytes) = .ok program →
        bytes = encode program.source ∧ (∀ c ∈ program.source, c.toNat < 0x80) ∧
        ∀ n ∈ program.root.preorder, ∃ span : Span, n.span = some span ∧
          span.Within program.source.length ∧ span.bytes program.source = span ∧
          decode ((span.bytes program.source).slice bytes) = .ok (span.text program.source) := by
  have hslice (source : Text) (span : Span) :
      decode ((span.bytes source).slice (encode source)) = .ok (span.text source) := by
    rw [Span.slice_bytes, Utf8.decode_encode]
  constructor
  · intro source span h
    refine ⟨Span.bytes_within h, hslice source span, fun other ho => ?_⟩
    obtain ⟨hstart, hstop, hnext, -⟩ := Span.bytes_order h ho
    exact ⟨hstart, hstop, hnext, Span.bytes_inside_iff h ho⟩
  · intro limits bytes program h
    have hb : bytes = encode program.source := Source.text_bytes.mp (text_of_compile h)
    have ha := ascii_of_compile h
    obtain ⟨d, hd, -, hp⟩ := compile_eq_ok_iff.mp (compile_source h)
    have hc : program.Charted := by
      rw [hp]
      exact charted_tree hd
    refine ⟨hb, ha, fun n hn => ?_⟩
    obtain ⟨span, hs, hlt, hle, -⟩ := hc.node n hn
    have hw : span.Within program.source.length := ⟨Nat.le_of_lt hlt, hle⟩
    refine ⟨span, hs, hw, Span.bytes_ascii hw ha, ?_⟩
    rw [hb]
    exact hslice program.source span

end Program

end Reckoner
