import Reckoner.Proofs.Program.Diagnosis
import Reckoner.Proofs.Text.Utf8

/-! # Encodings of a source

A source is text, or it is refused before anything of it is read: code points at their first
surrogate, and bytes if no text is written as them. Apart from that it makes no difference in which
form a text is handed over.
-/
namespace Reckoner

namespace CodePoint

/-- Code points are a text, or a surrogate follows one. -/
theorem text_or_surrogate (points : List CodePoint) : (∃ text, points = ofText text) ∨
    ∃ text index after, points = ofText text ++ .surrogate index :: after := by
  induction points with
  | nil => exact .inl ⟨[], rfl⟩
  | cons point points ih =>
    cases point with
    | surrogate index => exact .inr ⟨[], index, points, rfl⟩
    | scalar c =>
      rcases ih with ⟨text, rfl⟩ | ⟨text, index, after, rfl⟩
      · exact .inl ⟨c :: text, rfl⟩
      · exact .inr ⟨c :: text, index, after, rfl⟩

theorem characters?_surrogate (text : Text) (index : Fin 0x800) (after : List CodePoint) :
    characters? (ofText text ++ .surrogate index :: after) = .error text.length := by
  induction text with
  | nil => rfl
  | cons c text ih =>
    change characters? (.scalar c :: (ofText text ++ .surrogate index :: after)) = _
    rw [characters?, ih]
    rfl

theorem isSurrogate_ofText (text : Text) : ∀ point ∈ ofText text, point.isSurrogate = false := by
  intro point hp
  obtain ⟨c, -, rfl⟩ := List.mem_map.mp hp
  rfl

end CodePoint

namespace Source

theorem text_ofText (text : Text) : (ofText text).text = .ok text := by
  simp only [ofText, Source.text, CodePoint.characters?_ofText]

theorem text_bytes {bytes : List UInt8} {text : Text} :
    (Source.bytes bytes).text = .ok text ↔ bytes = Utf8.encode text := by
  rw [← Utf8.decode_eq_ok, Source.text]
  cases Utf8.decode bytes with
  | error fault =>
    constructor
    · intro h
      cases h
    · intro h
      cases h
  | ok other => rw [Except.ok.injEq, Except.ok.injEq]

theorem text_invalid {bytes : List UInt8} (h : ∀ text, bytes ≠ Utf8.encode text) :
    ∃ fault, (Source.bytes bytes).text = .error (.unlocated (.invalidBytes fault)) := by
  rw [Source.text]
  cases hd : Utf8.decode bytes with
  | error fault => exact ⟨fault, rfl⟩
  | ok text => exact absurd (Utf8.decode_eq_ok.mp hd) (h text)

theorem text_surrogate (text : Text) (index : Fin 0x800) (after : List CodePoint) :
    (Source.points (CodePoint.ofText text ++ .surrogate index :: after)).text =
      .error ⟨.surrogate, some ⟨CodePoint.ofText text ++ .surrogate index :: after,
        text.length⟩⟩ := by
  have hl : text.length ≤ (CodePoint.ofText text ++ .surrogate index :: after).length := by
    rw [List.length_append, CodePoint.ofText, List.length_map]
    exact Nat.le_add_right _ _
  have hc : max 0 (min (text.length : Int)
      (CodePoint.ofText text ++ .surrogate index :: after).length) = text.length := by omega
  rw [Source.text, CodePoint.characters?_surrogate]
  simp only [ParseError.located, ErrorContext.clamped, hc]

end Source

namespace Program
variable {η : Type} {limits : Limits}

theorem compile_of_text {source : Source} {text : Text} (h : source.text = .ok text) :
    (compile limits source : Except Node.Fault (Program η)) = compile limits (.ofText text) := by
  rw [compile, compile, h, Source.text_ofText]

theorem compile_refused {source : Source} {error : ParseError} (h : source.text = .error error) :
    (compile limits source : Except Node.Fault (Program η)) = .error (.source error) := by
  rw [compile, h]

theorem text_of_compile {source : Source} {program : Program η}
    (h : compile limits source = .ok program) : source.text = .ok program.source := by
  cases ht : source.text with
  | error error =>
    rw [compile_refused ht] at h
    cases h
  | ok text =>
    rw [compile_of_text ht] at h
    obtain ⟨d, -, -, rfl⟩ := compile_eq_ok_iff.mp h
    rfl

theorem kind_of_text {text : Text} {error : ParseError}
    (h : (compile limits (.ofText text) : Except Node.Fault (Program η)) =
      .error (.source error)) : error.kind ≠ .invalidEncoding := by
  obtain ⟨standing, hs⟩ := Standing.exists_holds text
  have hr : standing.Reported limits text (.error (.source error) : Except _ (Program η)) :=
    h ▸ hs.reported limits
  cases standing with
  | sentence d =>
    rcases hr with ⟨-, he⟩ | ⟨-, other, he, hk⟩
    · cases he
    · cases he
      rw [hk]
      decide
  | unfinished =>
    obtain ⟨⟨other, he, hp⟩, -⟩ := hr
    cases he
    rw [hp.kind_eq]
    decide
  | misplaced t =>
    obtain ⟨⟨other, he, hp⟩, -⟩ := hr
    cases he
    rw [hp.kind_eq]
    decide
  | unreadable offset =>
    obtain ⟨c, -, other, he, hp⟩ := hr
    cases he
    rw [hp.kind_eq]
    decide

theorem not_encoded_of_kind {bytes : List UInt8} {error : ParseError}
    (hk : error.kind = .invalidEncoding)
    (he : (compile limits (.bytes bytes) : Except Node.Fault (Program η)) =
      .error (.source error)) : ∀ text, bytes ≠ Utf8.encode text := by
  intro text hb
  rw [compile_of_text (Source.text_bytes.mpr hb)] at he
  exact kind_of_text he hk

/-- A text compiles alike as code points and as bytes. Code points are refused at their first
surrogate whatever else is wrong with them. Bytes are refused for their encoding, without a
position, exactly if no text is written as them. A program keeps the text that its source is read
as. -/
theorem compile_encoded (limits : Limits) :
    (∀ points : List CodePoint, (∀ point ∈ points, point.isSurrogate = false) →
      ∃ text, points = CodePoint.ofText text ∧
        (compile limits (.points points) : Except Node.Fault (Program η)) =
          compile limits (.bytes (Utf8.encode text))) ∧
    (∀ points : List CodePoint, (∃ point ∈ points, point.isSurrogate = true) →
      ∃ offset index, points[offset]? = some (.surrogate index) ∧
        (∀ point ∈ points.take offset, point.isSurrogate = false) ∧
        (compile limits (.points points) : Except Node.Fault (Program η)) =
          .error (.source ⟨.surrogate, some ⟨points, offset⟩⟩)) ∧
    (∀ bytes : List UInt8,
      ((∃ error : ParseError, error.kind = .invalidEncoding ∧
        (compile limits (.bytes bytes) : Except Node.Fault (Program η)) =
          .error (.source error)) ↔ ∀ text, bytes ≠ Utf8.encode text) ∧
      (∀ error : ParseError, error.kind = .invalidEncoding →
        (compile limits (.bytes bytes) : Except Node.Fault (Program η)) =
          .error (.source error) → error.context = none) ∧
      ∀ text, bytes = Utf8.encode text →
        (compile limits (.bytes bytes) : Except Node.Fault (Program η)) =
          compile limits (.ofText text)) ∧
    ∀ (source : Source) (program : Program η), compile limits source = .ok program →
      source.text = .ok program.source := by
  refine ⟨fun points hp => ?_, fun points hp => ?_, fun bytes => ⟨⟨?_, fun hb => ?_⟩, ?_, ?_⟩,
    fun source program h => ?_⟩
  · rcases CodePoint.text_or_surrogate points with ⟨text, rfl⟩ | ⟨text, index, after, rfl⟩
    · refine ⟨text, rfl, ?_⟩
      rw [compile_of_text (Source.text_bytes.mpr rfl)]
      rfl
    · cases hp (.surrogate index) (List.mem_append_right _ List.mem_cons_self)
  · rcases CodePoint.text_or_surrogate points with ⟨text, rfl⟩ | ⟨text, index, after, rfl⟩
    · obtain ⟨point, hm, hs⟩ := hp
      rw [CodePoint.isSurrogate_ofText text point hm] at hs
      cases hs
    · have hl : (CodePoint.ofText text).length = text.length := List.length_map _
      refine ⟨text.length, index, ?_, ?_, compile_refused (Source.text_surrogate text index after)⟩
      · rw [← hl, List.getElem?_append_right (Nat.le_refl _), Nat.sub_self, List.getElem?_cons_zero]
      · rw [← hl, List.take_left]
        exact CodePoint.isSurrogate_ofText text
  · rintro ⟨error, hk, he⟩
    exact not_encoded_of_kind hk he
  · obtain ⟨fault, hf⟩ := Source.text_invalid hb
    exact ⟨_, rfl, compile_refused hf⟩
  · intro error hk he
    obtain ⟨fault, hf⟩ := Source.text_invalid (not_encoded_of_kind hk he)
    rw [compile_refused hf] at he
    cases he
    rfl
  · intro text hb
    exact compile_of_text (Source.text_bytes.mpr hb)
  · cases ht : source.text with
    | error error =>
      rw [compile_refused ht] at h
      cases h
    | ok text =>
      rw [compile_of_text ht] at h
      obtain ⟨d, -, -, rfl⟩ := compile_eq_ok_iff.mp h
      rfl

end Program

end Reckoner
