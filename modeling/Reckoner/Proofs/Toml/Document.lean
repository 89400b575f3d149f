import Reckoner.Proofs.Toml.Scalar
import Reckoner.Toml.Document

/-! # Faults of a TOML document

Reading a document fails for its form, or for one of two reasons that can be seen in its text: there
are more digits in a row than are converted, or there are so many brackets that they would take all
places of the stack if each stood in the one before.
-/
namespace Reckoner.Toml
variable {α β γ : Type} {text rest : Text} {room places : Nat}

/-- More digits in a row than are converted, the underscores among them not counted. -/
def HasLongNumeral (text : Text) : Prop :=
  ∃ numeral, numeral <:+: text ∧ IsNumeral Text.isDigit numeral ∧
    Numeral.longest < numeral.countP Text.isDigit

/-- The places on the stack that brackets take if each stands in the one before. -/
def bracketPlaces (text : Text) : Nat := 2 * text.count '[' + 3 * text.count '\x7b'

/-- What a fault tells about the text, read when `places` of the stack are taken. -/
inductive Blames (room places : Nat) (text : Text) : Fault → Prop
  | malformed : Blames room places text .malformed
  | digits (h : HasLongNumeral text) : Blames room places text .digits
  | stack (h : room < places + bracketPlaces text) : Blames room places text .stack

/-- What is left over is an end of the text, and a fault has its reason in the text. -/
def Accounts (room : Nat) (left : β → Text) (places : Nat) (text : Text) :
    Except Fault β → Prop
  | .ok b => left b <:+ text
  | .error fault => Blames room places text fault

theorem HasLongNumeral.mono (hr : rest <:+: text) (h : HasLongNumeral rest) :
    HasLongNumeral text := by
  obtain ⟨numeral, hi, hn, hl⟩ := h
  exact ⟨numeral, hi.trans hr, hn, hl⟩

theorem bracketPlaces_le (hr : rest <:+ text) : bracketPlaces rest ≤ bracketPlaces text := by
  have hl : rest.count '[' ≤ text.count '[' := hr.sublist.count_le _
  have hc : rest.count '\x7b' ≤ text.count '\x7b' := hr.sublist.count_le _
  unfold bracketPlaces
  omega

namespace Accounts
variable {left : β → Text} {left' : γ → Text} {result : Except Fault β}

/-- Inside brackets more places are taken, and fewer brackets are to come. -/
theorem within {more : Nat} (hr : rest <:+ text)
    (hp : more + bracketPlaces rest ≤ places + bracketPlaces text)
    (h : Accounts room left more rest result) : Accounts room left places text result := by
  cases result with
  | ok b => exact List.IsSuffix.trans h hr
  | error fault =>
    cases h with
    | malformed => exact .malformed
    | digits h => exact .digits (h.mono hr.isInfix)
    | stack h => exact .stack (Nat.lt_of_lt_of_le h hp)

theorem mono (hr : rest <:+ text) (h : Accounts room left places rest result) :
    Accounts room left places text result :=
  h.within hr (Nat.add_le_add_left (bracketPlaces_le hr) places)

theorem wellFormed {read : Option β} (h : Leaves left text read) :
    Accounts room left places text (wellFormed read) := by
  cases read with
  | none => exact Blames.malformed
  | some b => exact h b rfl

theorem bind {f : β → Except Fault γ} (h : Accounts room left places text result)
    (hf : ∀ b, Accounts room left' places (left b) (f b)) :
    Accounts room left' places text (result >>= f) := by
  cases result with
  | ok b => exact (hf b).mono h
  | error fault =>
    cases h with
    | malformed => exact Blames.malformed
    | digits h => exact Blames.digits h
    | stack h => exact Blames.stack h

theorem skip {read : Option β} {f : β → Except Fault γ}
    (hf : ∀ b, Accounts room left' places text (f b)) :
    Accounts room left' places text (Toml.wellFormed read >>= f) := by
  cases read with
  | none => exact Blames.malformed
  | some b => exact hf b

end Accounts

/-! ## Values -/

theorem skipLayout_leaves (steps : Nat) (text : Text) : Leaves id text (skipLayout steps text) := by
  induction steps generalizing text with
  | zero => exact .some (List.suffix_refl _)
  | succ steps ih =>
    have hs : text.dropWhile isBlankOrLineEnd <:+ text := List.dropWhile_suffix _
    rw [skipLayout]
    split
    · next h =>
      rw [h] at hs
      exact ((skipComment?_leaves _).bind ih).mono hs
    · next h => exact .some hs

theorem skipAllLayout_leaves (text : Text) : Leaves id text (skipAllLayout text) :=
  skipLayout_leaves _ text

theorem HasLongNumeral.of_isOverlong {datum : Datum} (h : scalar text = some (datum, rest))
    (ho : isOverlong text rest datum = true) : HasLongNumeral text := by
  obtain ⟨front, rfl⟩ := scalar_leaves text _ h
  dsimp only at h ho
  cases datum with
  | integer n =>
    have hfront : (front ++ rest).take ((front ++ rest).length - rest.length) = front := by
      rw [List.length_append, Nat.add_sub_cancel, List.take_left]
    rw [isOverlong, hfront, Bool.and_eq_true, bne_iff_ne, decide_eq_true_eq] at ho
    obtain ⟨hz, hl⟩ := ho
    -- A number in another base begins with a zero and is converted however long it is.
    have hhead : (front ++ rest).head? ≠ some '0' := by
      cases front with
      | nil => exact absurd hl (Nat.not_lt_zero _)
      | cons c front => exact hz
    obtain ⟨sign, numeral, ht, hs, hn⟩ := decimal_integer (scalar_integer h hhead)
    rw [List.append_cancel_right ht, List.countP_append, hs, Nat.zero_add] at hl
    exact ⟨numeral, ⟨sign, rest, ht.symm⟩, hn, hl⟩
  | _ => cases ho

section Steps
variable {steps : Nat}

theorem bracketPlaces_list (text : Text) :
    places + 2 + bracketPlaces text = places + bracketPlaces ('[' :: text) := by
  unfold bracketPlaces
  rw [List.count_cons_self, List.count_cons_of_ne (by decide)]
  omega

theorem bracketPlaces_table (text : Text) :
    places + 3 + bracketPlaces text = places + bracketPlaces ('\x7b' :: text) := by
  unfold bracketPlaces
  rw [List.count_cons_self, List.count_cons_of_ne (by decide)]
  omega

theorem value_accounts_succ
    (hi : ∀ places text, Accounts room Prod.snd places text (items room steps places text))
    (hp : ∀ places entries closed text,
      Accounts room Prod.snd places text (pairs room steps places entries closed text))
    (places : Nat) (text : Text) :
    Accounts room Prod.snd places text (value room (steps + 1) places text) := by
  unfold value
  split
  · next hl => exact .stack (Nat.lt_of_lt_of_le hl (Nat.le_add_right _ _))
  · split
    -- What a bracket adds to the places taken is no longer counted in the text after it.
    · next rest =>
      refine .within (List.suffix_cons _ _) (Nat.le_of_eq (bracketPlaces_list rest)) ?_
      refine .bind (.wellFormed (skipAllLayout_leaves rest)) fun rest => ?_
      dsimp only [id]
      split
      · exact List.suffix_cons _ _
      · exact .bind (hi _ rest) fun _ => List.suffix_refl _
    · next rest =>
      refine .within (List.suffix_cons _ _) (Nat.le_of_eq (bracketPlaces_table rest)) ?_
      refine .mono (skipBlanks_suffix rest) ?_
      split
      · next h =>
        rw [h]
        exact List.suffix_cons _ _
      · exact .bind (hp _ _ _ _) fun _ => List.suffix_refl _
    · cases h : scalar text with
      | none => exact Blames.malformed
      | some read =>
        change Accounts room Prod.snd places text (if _ then _ else _)
        split
        · next ho => exact Blames.digits (.of_isOverlong h ho)
        · exact scalar_leaves text read h

theorem items_accounts_succ
    (hv : ∀ places text, Accounts room Prod.snd places text (value room steps places text))
    (hi : ∀ places text, Accounts room Prod.snd places text (items room steps places text))
    (places : Nat) (text : Text) :
    Accounts room Prod.snd places text (items room (steps + 1) places text) := by
  rw [items]
  refine .bind (hv places text) fun read => ?_
  refine .bind (.wellFormed (skipAllLayout_leaves read.2)) fun rest => ?_
  dsimp only [id]
  split
  · exact List.suffix_cons _ _
  · next more =>
    refine .mono (List.suffix_cons _ _) ?_
    refine .bind (.wellFormed (skipAllLayout_leaves more)) fun more => ?_
    dsimp only [id]
    split
    · exact List.suffix_cons _ _
    · exact .bind (hi places more) fun _ => List.suffix_refl _
  · exact Blames.malformed

theorem pairs_accounts_succ
    (hv : ∀ places text, Accounts room Prod.snd places text (value room steps places text))
    (hp : ∀ places entries closed text,
      Accounts room Prod.snd places text (pairs room steps places entries closed text))
    (places : Nat) (entries : Bindings Datum) (closed : List Path) (text : Text) :
    Accounts room Prod.snd places text (pairs room (steps + 1) places entries closed text) := by
  rw [pairs]
  refine .bind (.wellFormed (key_leaves text)) fun name => ?_
  refine .bind (.wellFormed (mark_leaves '=' name.2)) fun rest => ?_
  refine .mono (skipBlanks_suffix rest) ?_
  refine .bind (hv places _) fun read => ?_
  dsimp only
  split
  · exact Blames.malformed
  · refine .skip fun entries => ?_
    refine .mono (skipBlanks_suffix read.2) ?_
    split
    · next h =>
      rw [h]
      exact List.suffix_cons _ _
    · next more h =>
      rw [h]
      exact (hp places _ _ _).mono ((skipBlanks_suffix more).trans (List.suffix_cons _ _))
    · exact Blames.malformed

end Steps

theorem accounts (steps : Nat) :
    (∀ places text, Accounts room Prod.snd places text (value room steps places text)) ∧
    (∀ places text, Accounts room Prod.snd places text (items room steps places text)) ∧
    (∀ places entries closed text,
      Accounts room Prod.snd places text (pairs room steps places entries closed text)) := by
  -- The three call each other with a step less, so none of them can be done by itself.
  induction steps with
  | zero => exact ⟨fun _ _ => .malformed, fun _ _ => .malformed, fun _ _ _ _ => .malformed⟩
  | succ steps ih =>
    obtain ⟨hv, hi, hp⟩ := ih
    exact ⟨value_accounts_succ hi hp, items_accounts_succ hv hi, pairs_accounts_succ hv hp⟩

theorem pair_accounts (text : Text) : Accounts room Prod.snd 0 text (pair room text) := by
  refine .bind (.wellFormed (key_leaves text)) fun name => ?_
  refine .bind (.wellFormed (mark_leaves '=' name.2)) fun rest => ?_
  refine .mono (skipBlanks_suffix rest) ?_
  exact .bind ((accounts _).1 0 _) fun _ => List.suffix_refl _

/-! ## Documents -/

namespace Document

theorem statement_accounts (d : Document) (text : Text) :
    Accounts room Prod.snd 0 text (d.statement room text) := by
  unfold statement
  split
  · next rest =>
    refine .wellFormed (.mono ((skipBlanks_suffix rest).trans (List.suffix_append ['[', '['] _)) ?_)
    refine (key_leaves _).bind fun name => ?_
    refine .skip fun d => ?_
    refine (mark_leaves ']' name.2).bind fun rest => ?_
    exact (mark_leaves ']' rest).bind fun rest => .some (List.suffix_refl _)
  · next rest _ =>
    refine .wellFormed (.mono ((skipBlanks_suffix rest).trans (List.suffix_cons _ _)) ?_)
    refine (key_leaves _).bind fun name => ?_
    refine .skip fun d => ?_
    exact (mark_leaves ']' name.2).bind fun rest => .some (List.suffix_refl _)
  · exact List.suffix_refl _
  · refine .bind (pair_accounts text) fun read => ?_
    exact .skip fun d => List.suffix_refl _

theorem readLines_accounts (lines : Nat) (d : Document) (text : Text) :
    Accounts room (fun _ => []) 0 text (readLines room lines d text) := by
  induction lines generalizing d text with
  | zero => exact .malformed
  | succ lines ih =>
    rw [readLines]
    refine .mono (skipBlanks_suffix text) ?_
    split
    · exact List.nil_suffix
    · next h =>
      rw [h]
      exact (ih _ _).mono (List.suffix_cons _ _)
    · refine .bind (statement_accounts d _) fun read => ?_
      refine .mono (skipBlanks_suffix read.2) ?_
      refine .bind (.wellFormed (skipComment?_leaves _)) fun rest => ?_
      dsimp only [id]
      split
      · exact List.nil_suffix
      · next more => exact (ih _ more).mono (List.suffix_cons _ _)
      · exact Blames.malformed

/-! ## Line ends -/

section LineEnds
variable {numeral : Text}

theorem prefix_of_contract (hn : '\n' ∉ numeral)
    (h : numeral <+: Text.contract '\r' '\n' '\n' text) : numeral <+: text := by
  fun_induction Text.contract '\r' '\n' '\n' text generalizing numeral with
  | case1 => exact h
  | case2 => exact h
  | case3 c d rest _ ih =>
    rcases List.prefix_cons_iff.mp h with rfl | ⟨t, rfl, -⟩
    · exact List.nil_prefix
    · exact absurd List.mem_cons_self hn
  | case4 c d rest _ ih =>
    rcases List.prefix_cons_iff.mp h with rfl | ⟨t, rfl, ht⟩
    · exact List.nil_prefix
    · exact List.cons_prefix_cons.mpr ⟨rfl, ih (fun hm => hn (List.mem_cons_of_mem c hm)) ht⟩

theorem infix_of_contract (hn : '\n' ∉ numeral)
    (h : numeral <:+: Text.contract '\r' '\n' '\n' text) : numeral <:+: text := by
  fun_induction Text.contract '\r' '\n' '\n' text with
  | case1 => exact h
  | case2 => exact h
  | case3 c d rest hc ih =>
    rcases List.infix_cons_iff.mp h with h | h
    · exact (prefix_of_contract hn (by rwa [Text.contract, if_pos hc])).isInfix
    · exact (ih h).trans (List.suffix_append [c, d] rest).isInfix
  | case4 c d rest hc ih =>
    rcases List.infix_cons_iff.mp h with h | h
    · exact (prefix_of_contract hn (by rwa [Text.contract, if_neg hc])).isInfix
    · exact (ih h).trans (List.suffix_cons c _).isInfix

theorem count_contract {c : Char} (hr : c ≠ '\r') (hn : c ≠ '\n') (text : Text) :
    (Text.contract '\r' '\n' '\n' text).count c = text.count c := by
  fun_induction Text.contract '\r' '\n' '\n' text with
  | case1 => rfl
  | case2 => rfl
  | case3 d e rest hde ih =>
    rw [Bool.and_eq_true, beq_iff_eq, beq_iff_eq] at hde
    rw [hde.1, hde.2, List.count_cons_of_ne hn.symm, List.count_cons_of_ne hr.symm,
      List.count_cons_of_ne hn.symm, ih]
  | case4 d e rest _ ih => rw [List.count_cons, List.count_cons, ih]

end LineEnds

/-- A fault of a document has its reason in the text as it was given. -/
theorem read_blames {fault : Fault} (h : read room text = .error fault) :
    Blames room 0 text fault := by
  have ha : Accounts room _ 0 _ _ := readLines_accounts
    ((Text.contract '\r' '\n' '\n' text).length + 1) empty (Text.contract '\r' '\n' '\n' text)
  simp only [read] at h
  cases hl : readLines room ((Text.contract '\r' '\n' '\n' text).length + 1) empty
      (Text.contract '\r' '\n' '\n' text) with
  | ok d =>
    rw [hl] at h
    cases h
  | error other =>
    rw [hl] at h ha
    cases h
    cases ha with
    | malformed => exact .malformed
    -- The text that is read differs from the one given in line ends only, and neither a numeral
    -- nor a bracket is one.
    | digits h =>
      obtain ⟨numeral, hi, hn, hc⟩ := h
      refine .digits ⟨numeral, infix_of_contract (fun hm => ?_) hi, hn, hc⟩
      exact (hn _ hm).elim (fun h => absurd h (by decide)) (fun h => absurd h (by decide))
    | stack h =>
      apply Blames.stack
      rwa [bracketPlaces, count_contract (by decide) (by decide),
        count_contract (by decide) (by decide)] at h

end Document

end Reckoner.Toml
