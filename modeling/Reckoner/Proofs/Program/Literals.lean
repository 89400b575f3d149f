import Reckoner.Proofs.Number.Literal
import Reckoner.Proofs.Program.Encoding
import Reckoner.Proofs.Token.Margins
import Reckoner.Proofs.Token.Pattern

/-! # Literals and names by themselves

Every number of a source is as long as a number can be there, and the reader of numbers accepts it,
so compiling ends in a program or in an error of the source. A source that is a single numeral or
name compiles to a single leaf, whatever the limits are.
-/
namespace Reckoner
open Token (Covers Spells Numeral)

theorem Token.covers_token {kind : Kind} {w : Text} (hw : Spells kind w) :
    Covers w [⟨kind, w, 0⟩] := by
  have h := reads_token hw ends_nil 0
  rw [List.append_nil] at h
  exact h.covers

def Token.Alone (kind : Kind) (w : Text) : Prop := scan w = ⟨[⟨kind, w, 0⟩], none⟩

theorem Token.alone_iff {kind : Kind} {w : Text} : Alone kind w ↔ Spells kind w := by
  constructor
  · intro h
    exact (covers_iff.mpr h).laid.spelled _ (List.mem_singleton_self _)
  · intro hw
    exact covers_iff.mp (covers_token hw)

namespace Program
variable {η : Type} {limits : Limits}

theorem compile_atom {source : Text} {d : Derivation (.expression .atom)}
    (h : Covers source d.yield) (hn : d.extent = 0) :
    compile limits (.ofText source) = .ok (⟨source, d.tree⟩ : Program η) := by
  let whole : Sentence := .product (.unary (.applied (.atom d)))
  have ha : limits.Allow whole.extent := by
    change limits.Allow d.extent
    rw [hn]
    exact Limits.allow_zero
  exact (compile_sentence (d := whole) h).1 ha

theorem compile_numeral {w : Text} (hw : Numeral w) {x : Float}
    (hx : Decimal.readLoose? w = some x) :
    compile limits (.ofText w) =
      .ok (⟨w, .value (.number x) (some ⟨0, w.length⟩)⟩ : Program η) := by
  have h : Covers w [⟨.number, w, 0⟩] := Token.covers_token hw
  have hc := @compile_atom η limits w (.number ⟨.number, w, 0⟩ rfl) h rfl
  rw [hc]
  simp only [Derivation.tree, Derivation.numberOf, Derivation.span, Derivation.firstToken,
    Derivation.lastToken, Token.stop, hx, Option.getD_some, Nat.zero_add]

theorem compile_name {w : Text} (hw : Text.isName w = true) :
    compile limits (.ofText w) =
      .ok (⟨w, .value (.reference w) (some ⟨0, w.length⟩)⟩ : Program η) := by
  have h : Covers w [⟨.name, w, 0⟩] := Token.covers_token hw
  have hc := @compile_atom η limits w (.name ⟨.name, w, 0⟩ rfl) h rfl
  rw [hc]
  simp only [Derivation.tree, Derivation.span, Derivation.firstToken, Derivation.lastToken,
    Token.stop, Nat.zero_add]

/-- What does not compile has an error as a source; no phrase is found malformed in lowering it. -/
theorem compile_fails {source : Source} {fault : Node.Fault}
    (h : (compile limits source : Except Node.Fault (Program η)) = .error fault) :
    ∃ error, fault = .source error := by
  cases ht : source.text with
  | error error =>
    rw [compile_refused ht] at h
    exact ⟨error, (Except.error.inj h).symm⟩
  | ok text =>
    rw [compile_of_text ht] at h
    obtain ⟨standing, hs⟩ := Standing.exists_holds text
    obtain ⟨last, hr⟩ := hs.read
    cases hs with
    | @sentence d hd =>
      rw [compile_derivation hd] at h
      cases he : d.excess limits 0 with
      | none =>
        rw [he] at h
        cases h
      | some t =>
        rw [he] at h
        exact ⟨_, (Except.error.inj h).symm⟩
    | _ =>
      rw [compile_fault hr] at h
      exact ⟨_, (Except.error.inj h).symm⟩

/-- Where a number is read, the pattern of numerals takes that number as its first match, and no
longer start of the rest of the source matches. The number can always be read, so the only errors
are those of the source. A numeral by itself compiles to the leaf of its number, which is infinite
if it is too large. -/
theorem numbers_read (limits : Limits) :
    (∀ source : Text, ∀ t ∈ (Token.scan source).tokens, t.kind = .number →
      source.drop t.start = t.text ++ source.drop t.stop ∧
      Pattern.numeral.first? (source.drop t.start) = some (source.drop t.stop) ∧
      Pattern.numeral.Matches t.text ∧
      (∀ w, Pattern.numeral.Matches w → w <+: source.drop t.start → w.length ≤ t.text.length) ∧
      ∃ x, Decimal.readLoose? t.text = some x) ∧
    (∀ (source : Source) (fault : Node.Fault),
      (compile limits source : Except Node.Fault (Program η)) = .error fault →
        ∃ error, fault = .source error) ∧
    ∀ (source : Source) (w : Text), source.text = .ok w → Pattern.numeral.Matches w →
      ∃ x, Decimal.readLoose? w = some x ∧ (x = Binary64.infinity ∨ x.isFinite = true) ∧
        compile limits source =
          .ok (⟨w, .value (.number x) (some ⟨0, w.length⟩)⟩ : Program η) := by
  refine ⟨?_, ?_, ?_⟩
  · intro source t ht hk
    obtain ⟨last, rest, hr, -⟩ := Token.exists_reads 0 source
    have hm := hr.munch ht
    rw [Nat.sub_zero, hk] at hm
    obtain ⟨more, heq, hfirst⟩ := Token.munch_number_iff.mp hm
    have hmore : more = source.drop t.stop := by
      rw [Token.stop_eq, ← List.drop_drop, heq, List.drop_left]
    rw [hmore] at heq hfirst
    refine ⟨heq, hfirst, Token.matches_numeral.mpr hm.spells, ?_, ?_⟩
    · intro w hw hpre
      exact hm.longest .number w (Token.matches_numeral.mp hw) hpre
    · exact Decimal.readLoose?_of_numeral hm.spells
  · intro source fault h
    exact compile_fails h
  · intro source w ht hw
    have hw := Token.matches_numeral.mp hw
    obtain ⟨n, hn, hx⟩ := Decimal.readLoose?_eq_of_numeral hw
    refine ⟨n.toFloat, hx, n.toFloat_cases hn, ?_⟩
    rw [compile_of_text ht]
    exact compile_numeral hw hx

/-- Neither a sign without digits nor a second point belongs to a numeral. -/
example : Pattern.numeral.first? "1.5e+".toList = some "e+".toList ∧
    Pattern.numeral.first? "12.3.4".toList = some ".4".toList := by
  decide

end Program

end Reckoner
