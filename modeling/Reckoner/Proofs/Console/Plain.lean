import Reckoner.Console.Markup
import Reckoner.Proofs.Console.Fits
import Reckoner.Proofs.Number.Numeral
import Reckoner.Standard

/-! # Plain text

Text without brackets and colons means itself as marked-up text: there are no tags in it and no
names of emoji. Without tabs and control characters the console prints it as it is. Numbers and
standard functions are always written as such text.
-/
namespace Reckoner

/-- A character that is no markup and moves nothing on a console. -/
def Markup.IsPlain (c : Char) : Prop :=
  c ≠ '[' ∧ c ≠ ':' ∧ c ≠ '\t' ∧ Layout.isDropped c = false

instance (c : Char) : Decidable (Markup.IsPlain c) := inferInstanceAs (Decidable (_ ∧ _))

namespace Emoji

theorem replace_eq_self {text : Text} (h : ∀ c ∈ text, c ≠ ':') : replace text = text := by
  have hs : Text.splitAt (· == ':') text = [text] :=
    Text.splitAt_eq_singleton fun c hc => beq_false_of_ne (h c hc)
  rw [replace, hs]
  exact List.append_nil text

end Emoji

namespace Markup

section NoBrackets
variable {text : Text} (h : ∀ c ∈ text, c ≠ '[')
include h

theorem tagAt?_eq_none : tagAt? text = none := by
  unfold tagAt?
  split
  · next rest hd =>
    have hm : '[' ∈ text.dropWhile (· == '\\') := by
      rw [hd]
      exact List.mem_cons_self
    exact absurd rfl (h '[' ((List.dropWhile_suffix _).subset hm))
  · rfl

theorem partsFrom_eq_plain (steps : Nat) (before : Text) :
    partsFrom steps before text = [.plain (before.reverse ++ text)] := by
  induction text generalizing steps before with
  | nil =>
    cases steps with
    | zero => rfl
    | succ steps =>
      rw [partsFrom, List.append_nil]
      exact Nat.succ_ne_zero steps
  | cons c rest ih =>
    cases steps with
    | zero => rfl
    | succ steps =>
      rw [partsFrom, tagAt?_eq_none h]
      dsimp only
      rw [ih (List.forall_mem_cons.mp h).2, List.reverse_cons, List.append_assoc,
        List.singleton_append]

theorem contract_eq_self (replacement : Char) : Text.contract '\\' '[' replacement text = text := by
  induction text with
  | nil => rfl
  | cons c rest ih =>
    obtain ⟨-, hrest⟩ := List.forall_mem_cons.mp h
    cases rest with
    | nil => rfl
    | cons d rest =>
      have hd : d ≠ '[' := (List.forall_mem_cons.mp hrest).1
      rw [Text.contract, if_neg, ih hrest]
      rw [Bool.and_eq_true, beq_iff_eq, beq_iff_eq]
      exact fun hc => hd hc.2

end NoBrackets

theorem render_plain {text : Text} (h : ∀ c ∈ text, IsPlain c) : render text = .ok text := by
  have hb : ∀ c ∈ text, c ≠ '[' := fun c hc => (h c hc).1
  have hp : parts text = [.plain text] := partsFrom_eq_plain hb _ []
  have hs : shownPlain text = text := by
    rw [shownPlain, contract_eq_self hb, Emoji.replace_eq_self fun c hc => (h c hc).2.1]
  rw [render, hp]
  simp only [showParts, Except.map, hs, List.append_nil]
  rfl

end Markup

/-! ## Values -/

namespace Written

def alphabet : Text := "0123456789.eE+-naif".toList

theorem ofNat_subset (n : Nat) : Text.ofNat n ⊆ alphabet := by
  intro c hc
  have hp : Token.isNumeralPart c = true := by
    simp only [Token.isNumeralPart, Text.isDigit_ofNat n c hc, Bool.true_or]
  have hs : "0123456789.eE+-".toList ⊆ alphabet := by decide
  exact hs (Decimal.mem_of_isNumeralPart hp)

theorem replicate_subset (count : Nat) : List.replicate count '0' ⊆ alphabet := by
  intro c hc
  rw [List.eq_of_mem_replicate hc]
  decide

theorem positional_subset {digits : Text} (h : digits ⊆ alphabet) (point : Int) :
    positional digits point ⊆ alphabet := by
  unfold positional
  split
  · refine List.append_subset.mpr ⟨?_, h⟩
    refine List.cons_subset.mpr ⟨by decide, List.cons_subset.mpr ⟨by decide, ?_⟩⟩
    exact replicate_subset _
  · split
    · refine List.append_subset.mpr ⟨List.append_subset.mpr ⟨h, replicate_subset _⟩, ?_⟩
      decide
    · refine List.append_subset.mpr ⟨List.Subset.trans (List.take_subset _ _) h, ?_⟩
      exact List.cons_subset.mpr ⟨by decide, List.Subset.trans (List.drop_subset _ _) h⟩

theorem exponential_subset {digits : Text} (h : digits ⊆ alphabet) (point : Int) :
    exponential digits point ⊆ alphabet := by
  have htail : (if (digits.drop 1).isEmpty then [] else '.' :: digits.drop 1) ⊆ alphabet := by
    split
    · exact List.nil_subset _
    · exact List.cons_subset.mpr ⟨by decide, List.Subset.trans (List.drop_subset _ _) h⟩
  have hmark : (if point - 1 < 0 then '-' else '+') ∈ alphabet := by
    split <;> decide
  unfold exponential
  refine List.append_subset.mpr ⟨?_, ofNat_subset _⟩
  have hhead : digits.take 1 ⊆ alphabet := List.Subset.trans (List.take_subset 1 digits) h
  refine List.append_subset.mpr ⟨List.append_subset.mpr ⟨hhead, htail⟩, ?_⟩
  exact List.cons_subset.mpr ⟨by decide, List.cons_subset.mpr ⟨hmark, replicate_subset _⟩⟩

theorem finite_subset (digits : Nat) (exponent : Int) : finite digits exponent ⊆ alphabet := by
  have hk : (stripZeros (Text.ofNat digits)).1 ⊆ alphabet := by
    intro c hc
    have hm := (List.dropWhile_suffix _).subset (List.mem_reverse.mp hc)
    exact ofNat_subset digits (List.mem_reverse.mp hm)
  unfold finite
  dsimp only
  split
  · exact positional_subset hk _
  · exact exponential_subset hk _

theorem number_subset (x : Float) : number x ⊆ alphabet := by
  unfold number
  split
  · decide
  · have hm : (if Binary64.biasedExponent x = 2047 then "inf".toList
        else if Binary64.mantissa x = 0 then "0.0".toList
        else finite (Shortest.digits x).1 (Shortest.digits x).2) ⊆ alphabet := by
      split
      · decide
      · split
        · decide
        · exact finite_subset _ _
    dsimp only
    split
    · exact List.cons_subset.mpr ⟨by decide, hm⟩
    · exact hm

end Written

namespace Value
variable {η : Type}
open Markup (IsPlain)

theorem number_plain (x : Float) : ∀ c ∈ (Value.number x : Value η).written, IsPlain c := by
  have ha : ∀ c ∈ Written.alphabet, IsPlain c := Text.forall_of_all (by decide)
  exact fun c hc => ha c (Written.number_subset x hc)

theorem builtin_plain (b : Builtin) : ∀ c ∈ (b.value : Value Empty).written, IsPlain c := by
  cases b <;> exact Text.forall_of_all (by decide)

theorem text_plain {t : Text} (h : ∀ c ∈ t, IsPlain c) :
    ∀ c ∈ (Value.text t : Value η).written, IsPlain c := by
  intro c hc
  rcases List.mem_append.mp hc with hc | hc
  · rcases List.mem_cons.mp hc with rfl | hc
    · decide
    · exact h c hc
  · rw [List.mem_singleton.mp hc]
    decide

end Value

end Reckoner
