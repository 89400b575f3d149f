import Reckoner.Proofs.Toml.Document

/-! # Steps of the readers

The readers of a document are bounded by a number of steps, and a text is refused where they run
out. They never do: each step takes a character, so a bound that exceeds the length of the text can
be any other such bound.
-/
namespace Reckoner.Toml
variable {β γ : Type} {text rest : Text} {room steps steps' places : Nat}

theorem lt_of_cons_suffix {c : Char} (h : c :: rest <:+ text) : rest.length < text.length :=
  h.length_le

namespace Leaves
variable {left : β → Text} {read : Option β}

theorem bind_congr {f g : β → Option γ} (h : Leaves left text read)
    (hf : ∀ b, left b <:+ text → f b = g b) : read.bind f = read.bind g := by
  cases read with
  | none => rfl
  | some b => exact hf b (h b rfl)

theorem wellFormed_congr {f g : β → Except Fault γ} (h : Leaves left text read)
    (hf : ∀ b, left b <:+ text → f b = g b) : wellFormed read >>= f = wellFormed read >>= g := by
  cases read with
  | none => rfl
  | some b => exact hf b (h b rfl)

end Leaves

theorem Accounts.bind_congr {left : β → Text} {result : Except Fault β}
    {f g : β → Except Fault γ} (h : Accounts room left places text result)
    (hf : ∀ b, left b <:+ text → f b = g b) : result >>= f = result >>= g := by
  cases result with
  | ok b => exact hf b h
  | error fault => rfl

/-! ## Simple values -/

theorem basicBody_steps (multiline : Bool) (h : text.length < steps) (h' : text.length < steps') :
    basicBody multiline steps text = basicBody multiline steps' text := by
  induction steps generalizing steps' text with
  | zero => exact absurd h (Nat.not_lt_zero _)
  | succ steps ih =>
    cases steps' with
    | zero => exact absurd h' (Nat.not_lt_zero _)
    | succ steps' =>
      cases text with
      | nil => rfl
      | cons c rest =>
        have hrest {more : Text} (hm : more <:+ rest) :
            basicBody multiline steps more = basicBody multiline steps' more :=
          ih (Nat.lt_of_le_of_lt hm.length_le (Nat.lt_of_succ_lt_succ h))
            (Nat.lt_of_le_of_lt hm.length_le (Nat.lt_of_succ_lt_succ h'))
        simp only [basicBody]
        rw [hrest (List.suffix_refl _)]
        congr 1
        congr 1
        exact (escape_leaves multiline rest).bind_congr fun r hr => by rw [hrest hr]

theorem keyParts_steps (h : text.length < steps) (h' : text.length < steps') :
    keyParts steps text = keyParts steps' text := by
  induction steps generalizing steps' text with
  | zero => exact absurd h (Nat.not_lt_zero _)
  | succ steps ih =>
    cases steps' with
    | zero => exact absurd h' (Nat.not_lt_zero _)
    | succ steps' =>
      rw [keyParts, keyParts]
      split
      · rfl
      · next part rest hp =>
        have hr : skipBlanks rest <:+ text :=
          (skipBlanks_suffix rest).trans (keyPart_leaves text _ hp)
        split
        · next more hd =>
          rw [hd] at hr
          have hlt := lt_of_cons_suffix hr
          have hle := (skipBlanks_suffix more).length_le
          have hm : keyParts steps (skipBlanks more) = keyParts steps' (skipBlanks more) :=
            ih (by omega) (by omega)
          rw [hm]
        · rfl

/-- A comment is longer than what is left over after it. -/
theorem skipComment?_hash (rest : Text) : Leaves id rest (skipComment? ('#' :: rest)) := by
  rw [skipComment?]
  split
  · exact .none
  · exact .some (List.dropWhile_suffix _)

theorem skipLayout_steps (h : text.length ≤ steps) (h' : text.length ≤ steps') :
    skipLayout steps text = skipLayout steps' text := by
  have hnil (steps : Nat) : skipLayout steps [] = some [] := by cases steps <;> rfl
  induction steps generalizing steps' text with
  | zero =>
    rw [List.eq_nil_of_length_eq_zero (Nat.le_zero.mp h), hnil, hnil]
  | succ steps ih =>
    cases steps' with
    | zero => rw [List.eq_nil_of_length_eq_zero (Nat.le_zero.mp h'), hnil, hnil]
    | succ steps' =>
      have hs : text.dropWhile isBlankOrLineEnd <:+ text := List.dropWhile_suffix _
      rw [skipLayout, skipLayout]
      split
      · next rest hd =>
        rw [hd] at hs
        have hlt := lt_of_cons_suffix hs
        refine (skipComment?_hash rest).bind_congr fun more hm => ?_
        have hle : more.length ≤ rest.length := hm.length_le
        exact ih (by omega) (by omega)
      · rfl

/-! ## Values -/

/-- Two bounds on the steps read a text alike if both are large enough for it. An item takes a step
before its value takes a character, so that there can be two steps for each character. -/
structure Agree (room steps steps' : Nat) : Prop where
  value {places : Nat} {text : Text} (h : 2 * text.length < steps)
    (h' : 2 * text.length < steps') :
    value room steps places text = value room steps' places text
  items {places : Nat} {text : Text} (h : 2 * text.length + 1 < steps)
    (h' : 2 * text.length + 1 < steps') :
    items room steps places text = items room steps' places text
  pairs {places : Nat} {entries : Bindings Datum} {closed : List Path} {text : Text}
    (h : 2 * text.length + 1 < steps) (h' : 2 * text.length + 1 < steps') :
    pairs room steps places entries closed text = pairs room steps' places entries closed text

section Values
variable (ih : Agree room steps steps')
include ih

theorem value_succ (h : 2 * text.length < steps + 1) (h' : 2 * text.length < steps' + 1) :
    value room (steps + 1) places text = value room (steps' + 1) places text := by
  unfold value
  split
  · rfl
  · split
    · next rest =>
      rw [List.length_cons] at h h'
      refine (skipAllLayout_leaves rest).wellFormed_congr fun more hm => ?_
      have hle : more.length ≤ rest.length := hm.length_le
      dsimp only
      split
      · rfl
      · rw [ih.items (by omega) (by omega)]
    · next rest =>
      rw [List.length_cons] at h h'
      have hle := (skipBlanks_suffix rest).length_le
      split
      · rfl
      · rw [ih.pairs (by omega) (by omega)]
    · rfl

theorem items_succ (h : 2 * text.length + 1 < steps + 1) (h' : 2 * text.length + 1 < steps' + 1) :
    items room (steps + 1) places text = items room (steps' + 1) places text := by
  rw [items, items, ih.value (by omega) (by omega)]
  refine ((accounts steps').1 places text).bind_congr fun read hr => ?_
  refine (skipAllLayout_leaves read.2).wellFormed_congr fun rest hrest => ?_
  split
  · rfl
  · next more =>
    refine (skipAllLayout_leaves more).wellFormed_congr fun after ha => ?_
    have hlt : more.length < text.length := lt_of_cons_suffix (hrest.trans hr)
    have hle : after.length ≤ more.length := ha.length_le
    split
    · rfl
    · rw [ih.items (by omega) (by omega)]
  · rfl

theorem pairs_succ {entries : Bindings Datum} {closed : List Path}
    (h : 2 * text.length + 1 < steps + 1) (h' : 2 * text.length + 1 < steps' + 1) :
    pairs room (steps + 1) places entries closed text =
      pairs room (steps' + 1) places entries closed text := by
  rw [pairs, pairs]
  refine (key_leaves text).wellFormed_congr fun name hn => ?_
  refine (mark_leaves '=' name.2).wellFormed_congr fun rest hr => ?_
  have hb : skipBlanks rest <:+ text := (skipBlanks_suffix rest).trans (hr.trans hn)
  have hle := hb.length_le
  rw [ih.value (by omega) (by omega)]
  refine ((accounts steps').1 places _).bind_congr fun read hread => ?_
  dsimp only
  split
  · rfl
  · congr 1
    funext entries
    split
    · rfl
    · next more hd =>
      have hs : skipBlanks read.2 <:+ text := (skipBlanks_suffix _).trans (hread.trans hb)
      rw [hd] at hs
      have hlt := lt_of_cons_suffix hs
      have hle := (skipBlanks_suffix more).length_le
      exact ih.pairs (by omega) (by omega)
    · rfl

end Values

theorem agree (room steps steps' : Nat) : Agree room steps steps' := by
  induction steps generalizing steps' with
  | zero => constructor <;> intro h <;> omega
  | succ steps ih =>
    cases steps' with
    | zero => constructor <;> intro _ <;> omega
    | succ steps' => exact ⟨value_succ (ih steps'), items_succ (ih steps'), pairs_succ (ih steps')⟩

/-! ## Documents -/

/-- No document is refused because its lines are too many. -/
theorem readLines_steps (d : Document) (h : text.length < steps) (h' : text.length < steps') :
    Document.readLines room steps d text = Document.readLines room steps' d text := by
  induction steps generalizing steps' d text with
  | zero => exact absurd h (Nat.not_lt_zero _)
  | succ steps ih =>
    cases steps' with
    | zero => exact absurd h' (Nat.not_lt_zero _)
    | succ steps' =>
      have hnext {d : Document} {c : Char} {more : Text} (hm : c :: more <:+ text) :
          d.readLines room steps more = d.readLines room steps' more := by
        have hlt := lt_of_cons_suffix hm
        exact ih d (by omega) (by omega)
      rw [Document.readLines, Document.readLines]
      have hs := skipBlanks_suffix text
      split
      · rfl
      · next hd => exact hnext (hd ▸ hs)
      · refine (Document.statement_accounts d _).bind_congr fun read hr => ?_
        have hb := (skipBlanks_suffix read.2).trans (hr.trans hs)
        refine (skipComment?_leaves _).wellFormed_congr fun rest hrest => ?_
        split
        · rfl
        · exact hnext (hrest.trans hb)
        · rfl

end Reckoner.Toml
