import Reckoner.Proofs.Settings.Validation
import Reckoner.Proofs.Text.Utf8
import Reckoner.Proofs.Toml.Document
import Reckoner.Settings.File

/-! # Loading settings

The text of a settings file is settled by one of the layers that read it: as a document that is not
well formed, as one without settings, or as one with settings, which are valid or complained about.
Bytes that are no text, a numeral too long and brackets too deep are met by none of them.
-/
namespace Reckoner.Settings
variable {room : Nat} {bytes : List UInt8} {text : Text} {root : Bindings Datum}

/-- How settings come from a text: as the defaults, with a warning if the document is not well
formed and without if it has no settings, or as those it describes. If it describes none, everything
that is wrong with them is told. -/
inductive Loads (room : Nat) (text : Text) : Except LoadFault Loaded → Prop
  | malformed (h : Toml.Document.read room text = .error .malformed) :
      Loads room text (.ok ⟨default, true⟩)
  | absent {root : Bindings Datum} (h : Toml.Document.read room text = .ok root)
      (hc : ∀ given, root.find? "calc".toList = some given → given.isPresent = false) :
      Loads room text (.ok ⟨default, false⟩)
  | described {root entries : Bindings Datum} {settings : Settings}
      (h : Toml.Document.read room text = .ok root)
      (hc : root.find? "calc".toList = some (.table entries)) (hp : entries ≠ [])
      (hs : Describes entries settings) : Loads room text (.ok ⟨settings, false⟩)
  | refused {root : Bindings Datum} {given : Datum} {found : List Complaint}
      (h : Toml.Document.read room text = .ok root)
      (hc : root.find? "calc".toList = some given) (hp : given.isPresent = true)
      (hn : found ≠ []) (hf : ∀ complaint, complaint ∈ found ↔ Faulty given complaint) :
      Loads room text (.error (.invalid found))

/-- What keeps the content of a file from being read as a document, well formed or not. -/
inductive Prevents (room : Nat) (bytes : List UInt8) : LoadFault → Prop
  | notText {fault : Utf8.Fault} (h : Utf8.decode bytes = .error fault) :
      Prevents room bytes (.notText fault)
  | digits {text : Text} (hb : bytes = Utf8.encode text)
      (h : Toml.Document.read room text = .error .digits) : Prevents room bytes .digits
  | stack {text : Text} (hb : bytes = Utf8.encode text)
      (h : Toml.Document.read room text = .error .stack) : Prevents room bytes .stack

/-- No numeral is too long, and the brackets are too few to be nested too deep. -/
structure Moderate (room : Nat) (text : Text) : Prop where
  numerals : ¬Toml.HasLongNumeral text
  brackets : Toml.bracketPlaces text ≤ room

theorem ofDocument_cases (root : Bindings Datum) :
    (∀ given, root.find? "calc".toList = some given → given.isPresent = false) ∧
      ofDocument root = .ok default ∨
    ∃ given, root.find? "calc".toList = some given ∧ given.isPresent = true ∧
      ofDocument root = ofDatum given := by
  unfold ofDocument
  cases root.find? "calc".toList with
  | none => exact .inl ⟨nofun, rfl⟩
  | some given =>
    dsimp only
    cases hp : given.isPresent with
    | false =>
      refine .inl ⟨?_, rfl⟩
      rintro _ ⟨⟩
      exact hp
    | true => exact .inr ⟨given, rfl, hp, rfl⟩

theorem load_encode (room : Nat) (text : Text) : load room (.contents (Utf8.encode text)) =
    match Toml.Document.read room text with
    | .error .malformed => .ok ⟨default, true⟩
    | .error .digits => .error .digits
    | .error .stack => .error .stack
    | .ok root =>
      match ofDocument root with
      | .ok settings => .ok ⟨settings, false⟩
      | .error complaints => .error (.invalid complaints) := by
  rewrite [load, Utf8.decode_encode]
  rfl

/-- What a document holds decides how the settings come from it. -/
theorem loads_of_read (h : Toml.Document.read room text = .ok root) :
    Loads room text (load room (.contents (Utf8.encode text))) := by
  rw [load_encode, h]
  dsimp only
  rcases ofDocument_cases root with ⟨hc, ho⟩ | ⟨given, hc, hp, ho⟩
  · rw [ho]
    exact .absent h hc
  · rw [ho]
    cases hd : ofDatum given with
    | ok settings =>
      obtain ⟨entries, rfl, hs⟩ := ofDatum_eq_ok.mp hd
      refine .described h hc ?_ hs
      rintro rfl
      cases hp
    | error found =>
      refine .refused h hc hp (grounded_ofDatum given found hd) fun complaint => ?_
      rw [← mem_complaints_ofDatum, hd]
      exact Iff.rfl

theorem load_prevented {fault : LoadFault} (h : Prevents room bytes fault) :
    load room (.contents bytes) = .error fault := by
  cases h with
  | notText h => rw [load, h]
  | digits hb h => rw [hb, load_encode, h]
  | stack hb h => rw [hb, load_encode, h]

theorem loads_of_not_prevents (h : ∀ fault, ¬Prevents room (Utf8.encode text) fault) :
    Loads room text (load room (.contents (Utf8.encode text))) := by
  cases hr : Toml.Document.read room text with
  | ok root => exact loads_of_read hr
  | error fault =>
    cases fault with
    | malformed =>
      rw [load_encode, hr]
      exact .malformed hr
    | digits => exact absurd (.digits rfl hr) (h _)
    | stack => exact absurd (.stack rfl hr) (h _)

theorem Moderate.not_prevents (hm : Moderate room text) (fault : LoadFault) :
    ¬Prevents room (Utf8.encode text) fault := by
  have hsame {other : Text} (hb : Utf8.encode text = Utf8.encode other) : other = text :=
    Except.ok.inj ((Utf8.decode_eq_ok.mpr hb).symm.trans (Utf8.decode_encode text))
  intro h
  cases h with
  | notText h => cases (Utf8.decode_encode text).symm.trans h
  | digits hb h =>
    cases hsame hb
    cases Toml.Document.read_blames h with
    | digits hl => exact hm.numerals hl
  | stack hb h =>
    cases hsame hb
    cases Toml.Document.read_blames h with
    | stack hl =>
      have hb := hm.brackets
      omega

/-- Unless something keeps the content of a file from being read, loading it ends with settings or
with complaints about them, as its text tells. Nothing keeps a moderate text from being read. -/
theorem load_content (room : Nat) (bytes : List UInt8) :
    (∀ fault, Prevents room bytes fault → load room (.contents bytes) = .error fault) ∧
    ((∀ fault, ¬Prevents room bytes fault) →
      ∃ text, bytes = Utf8.encode text ∧ Loads room text (load room (.contents bytes))) ∧
    ∀ text, bytes = Utf8.encode text → Moderate room text →
      Loads room text (load room (.contents bytes)) := by
  refine ⟨fun fault => load_prevented, fun h => ?_, ?_⟩
  · cases hd : Utf8.decode bytes with
    | error fault => exact absurd (.notText hd) (h _)
    | ok text =>
      cases Utf8.decode_eq_ok.mp hd
      exact ⟨text, rfl, loads_of_not_prevents h⟩
  · rintro text rfl hm
    exact loads_of_not_prevents hm.not_prevents

/-- A table of settings is read without a warning, and a byte out of place keeps it from being
read. -/
theorem load_content_seven :
    let text := "[calc]\nmax_depth = 7\n".toList
    let bytes := Utf8.encode text
    let latin : List UInt8 := [0x23, 0x20, 0xe9, 0x0a]
    let room := 1000
    load room (.contents bytes) = .ok ⟨⟨7, true, []⟩, false⟩ ∧
      Moderate room text ∧ Loads room text (load room (.contents bytes)) ∧
      (∀ fault, ¬Prevents room bytes fault) ∧
      (∃ other, bytes = Utf8.encode other ∧ Loads room other (load room (.contents bytes))) ∧
      Prevents room latin (.notText .invalidContinuation) ∧
      load room (.contents latin) = .error (.notText .invalidContinuation) := by
  have hload : load 1000 (.contents (Utf8.encode "[calc]\nmax_depth = 7\n".toList)) =
      .ok ⟨⟨7, true, []⟩, false⟩ := by
    -- Settings hold numbers, whose equality is not decided, so their parts are compared.
    have hs : (load 1000 (.contents (Utf8.encode "[calc]\nmax_depth = 7\n".toList))).toOption.map
        (fun loaded => (loaded.settings.maxDepth, loaded.settings.standard,
          loaded.settings.constants.isEmpty, loaded.warned)) = some (7, true, true, false) := by
      decide +kernel
    generalize load 1000 _ = result at hs ⊢
    cases result with
    | error fault => cases hs
    | ok loaded =>
      obtain ⟨⟨depth, standard, constants⟩, warned⟩ := loaded
      simp only [Except.toOption, Option.map_some, Option.some.injEq, Prod.mk.injEq,
        List.isEmpty_iff] at hs
      obtain ⟨rfl, rfl, rfl, rfl⟩ := hs
      rfl
  have hm : Moderate 1000 "[calc]\nmax_depth = 7\n".toList := by
    refine ⟨?_, by decide⟩
    rintro ⟨numeral, hi, -, hl⟩
    have hle := List.countP_le_length (p := Text.isDigit) (l := numeral)
    have hlen : numeral.length ≤ 21 := hi.length_le
    rw [Numeral.longest] at hl
    omega
  have hp : Prevents 1000 [0x23, 0x20, 0xe9, 0x0a] (.notText .invalidContinuation) := .notText rfl
  exact ⟨hload, hm, (load_content 1000 _).2.2 _ rfl hm, hm.not_prevents,
    (load_content 1000 _).2.1 hm.not_prevents, hp, (load_content 1000 _).1 _ hp⟩

/-- Bytes that are no text give neither settings nor complaints about them. -/
theorem load_latin_unsettled :
    let latin : List UInt8 := [0x23, 0x20, 0xe9, 0x0a]
    let room := 1000
    (∀ text, latin ≠ Utf8.encode text) ∧ (∀ loaded, load room (.contents latin) ≠ .ok loaded) ∧
      ∀ found, load room (.contents latin) ≠ .error (.invalid found) := by
  have hd : Utf8.decode [0x23, 0x20, 0xe9, 0x0a] = .error .invalidContinuation := rfl
  have hload := @load_prevented 1000 _ _ (.notText hd)
  refine ⟨fun text h => ?_, fun loaded h => ?_, fun found h => ?_⟩
  · cases hd.symm.trans (Utf8.decode_eq_ok.mpr h)
  · cases hload.symm.trans h
  · cases hload.symm.trans h

end Reckoner.Settings
