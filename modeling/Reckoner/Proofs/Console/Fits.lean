import Mathlib.Algebra.GroupWithZero.Nat
import Mathlib.Data.List.SplitBy
import Reckoner.Console.Layout
import Reckoner.Proofs.Text.Lines

/-! # Lines that fit

A line that takes no more columns and no more characters than the console has is printed as it is.
Wrapping measures it word by word, which never gives more columns than the whole line takes: only a
selector at the start of a word could add one to what stands before it, and words end in blanks.
-/
namespace Reckoner

namespace Glyph

/-- Columns are added up from the left. Whether the rest starts glued depends on the last character
before it. -/
theorem exists_columnsFrom_append (glued : Bool) (last : Option Char) (front : Text) :
    ∃ glued' last', (glued' = true → front = [] ∧ glued = true ∨ front.getLast? = some joiner) ∧
      ∀ rest, columnsFrom glued last (front ++ rest) =
        columnsFrom glued last front + columnsFrom glued' last' rest := by
  induction front generalizing glued last with
  | nil =>
    refine ⟨glued, last, fun h => .inl ⟨rfl, h⟩, fun rest => ?_⟩
    rw [List.nil_append, columnsFrom, Nat.zero_add]
  | cons c front ih =>
    have go (added : Nat) (next : Bool) (seen : Option Char) (hn : next = true → c = joiner)
        (hc : ∀ rest, columnsFrom glued last (c :: rest) = added + columnsFrom next seen rest) :
        ∃ glued' last', (glued' = true → c :: front = [] ∧ glued = true ∨
          (c :: front).getLast? = some joiner) ∧ ∀ rest,
            columnsFrom glued last (c :: front ++ rest) =
              columnsFrom glued last (c :: front) + columnsFrom glued' last' rest := by
      obtain ⟨glued', last', hg, hr⟩ := ih next seen
      refine ⟨glued', last', fun h => .inr ?_, fun rest => ?_⟩
      · rcases hg h with ⟨rfl, hnext⟩ | hl
        · rw [hn hnext, List.getLast?_singleton]
        · rw [List.getLast?_cons, hl, Option.getD_some]
      · rw [List.cons_append, hc, hc, hr, Nat.add_assoc]
    by_cases hg : glued = true
    · subst hg
      exact go 0 false last nofun fun rest => (Nat.zero_add _).symm
    · by_cases hj : c = joiner
      · refine go 0 true last (fun _ => hj) fun rest => ?_
        rw [columnsFrom, if_neg hg, if_pos hj, Nat.zero_add]
      · by_cases hs : c = emojiSelector
        · refine go (widening last) false none nofun fun rest => ?_
          rw [columnsFrom, if_neg hg, if_neg hj, if_pos hs]
        · by_cases hz : Width.column c = 0
          · refine go 0 false last nofun fun rest => ?_
            rw [columnsFrom, if_neg hg, if_neg hj, if_neg hs, if_pos hz, Nat.zero_add]
          · refine go (Width.column c) false (some c) nofun fun rest => ?_
            rw [columnsFrom, if_neg hg, if_neg hj, if_neg hs, if_neg hz]

/-- A character before the text can only add columns to it. -/
theorem columnsFrom_none_le (glued : Bool) (last : Option Char) (t : Text) :
    columnsFrom glued none t ≤ columnsFrom glued last t := by
  induction t generalizing glued with
  | nil => exact Nat.le_refl _
  | cons c rest ih =>
    rw [columnsFrom, columnsFrom]
    by_cases hg : glued = true
    · rw [if_pos hg, if_pos hg]
      exact ih false
    · rw [if_neg hg, if_neg hg]
      by_cases hj : c = joiner
      · rw [if_pos hj, if_pos hj]
        exact ih true
      · rw [if_neg hj, if_neg hj]
        by_cases hs : c = emojiSelector
        · rw [if_pos hs, if_pos hs]
          exact Nat.add_le_add_right (Nat.zero_le _) _
        · rw [if_neg hs, if_neg hs]
          by_cases hz : Width.column c = 0
          · rw [if_pos hz, if_pos hz]
            exact ih false
          · rw [if_neg hz, if_neg hz]

theorem columnsOf_le_append (front rest : Text) : columnsOf front ≤ columnsOf (front ++ rest) := by
  obtain ⟨glued, last, -, hr⟩ := exists_columnsFrom_append false none front
  rw [columnsOf, columnsOf, hr]
  exact Nat.le_add_right _ _

theorem columnsOf_add_le {front : Text} (h : front.getLast? ≠ some joiner) (rest : Text) :
    columnsOf front + columnsOf rest ≤ columnsOf (front ++ rest) := by
  obtain ⟨glued, last, hg, hr⟩ := exists_columnsFrom_append false none front
  have hglued : glued = false := by
    cases glued with
    | false => rfl
    | true =>
      rcases hg rfl with ⟨-, hf⟩ | hl
      · cases hf
      · exact absurd hl h
  rw [columnsOf, columnsOf, columnsOf, hr, hglued]
  exact Nat.add_le_add_left (columnsFrom_none_le false last rest) _

end Glyph

namespace Wrap
open Glyph (columnsOf columnsOf_le_append columnsOf_add_le joiner)

theorem bareColumns_le (word : Text) : bareColumns word ≤ columnsOf word := by
  have hw : (word.reverse.dropWhile Blank.isSpace).reverse ++
      (word.reverse.takeWhile Blank.isSpace).reverse = word := by
    rw [← List.reverse_append, List.takeWhile_append_dropWhile, List.reverse_reverse]
  have hle := columnsOf_le_append (word.reverse.dropWhile Blank.isSpace).reverse
    (word.reverse.takeWhile Blank.isSpace).reverse
  rwa [hw] at hle

theorem place_of_fits {width used : Nat} {line : Text} {ws : List Text}
    (h : used + (ws.map columnsOf).sum ≤ width) :
    place width line used ws = [line ++ ws.flatten] := by
  induction ws generalizing line used with
  | nil => rw [place, List.flatten_nil, List.append_nil]
  | cons word ws ih =>
    rw [List.map_cons, List.sum_cons] at h
    have hb := bareColumns_le word
    rw [place, if_pos (by omega), ih (by omega), List.flatten_cons, List.append_assoc]

theorem sum_columns_le {ws : List Text}
    (h : ws.IsChain fun word _ => word.getLast? ≠ some joiner) :
    (ws.map columnsOf).sum ≤ columnsOf ws.flatten := by
  induction ws with
  | nil => exact Nat.zero_le _
  | cons word ws ih =>
    rw [List.map_cons, List.sum_cons, List.flatten_cons]
    cases ws with
    | nil => exact columnsOf_le_append word []
    | cons next ws =>
      obtain ⟨hj, hrest⟩ := List.isChain_cons_cons.mp h
      exact Nat.le_trans (Nat.add_le_add_left (ih hrest) _) (columnsOf_add_le hj _)

theorem words_eq {line : Text} (h : words line ≠ []) : (words line).flatten = line ∧
    (words line).IsChain fun word _ => word.getLast? ≠ some joiner := by
  rw [words] at h ⊢
  have hflat := List.flatten_splitBy (fun a b => !Blank.isSpace a || Blank.isSpace b)
    (line.dropWhile Blank.isSpace)
  have hends := List.isChain_getLast_head_splitBy (fun a b => !Blank.isSpace a || Blank.isSpace b)
    (line.dropWhile Blank.isSpace)
  cases hw : (line.dropWhile Blank.isSpace).splitBy
      fun a b => !Blank.isSpace a || Blank.isSpace b with
  | nil =>
    rw [hw] at h
    exact absurd rfl h
  | cons word more =>
    rw [hw] at hflat hends
    have hjoiner : (word :: more).IsChain fun word _ => word.getLast? ≠ some joiner := by
      refine hends.imp fun a b hab hj => ?_
      obtain ⟨ha, hb, hr⟩ := hab
      rw [List.getLast?_eq_some_getLast ha] at hj
      rw [Option.some.inj hj, show Blank.isSpace joiner = false by decide] at hr
      cases hr
    constructor
    · change (line.takeWhile Blank.isSpace ++ word) ++ more.flatten = line
      rw [List.append_assoc, ← List.flatten_cons, hflat, List.takeWhile_append_dropWhile]
    · cases more with
      | nil => exact List.isChain_singleton _
      | cons next more =>
        obtain ⟨hj, hrest⟩ := List.isChain_cons_cons.mp hjoiner
        refine List.isChain_cons_cons.mpr ⟨?_, hrest⟩
        have hn : word ≠ [] := (List.isChain_cons_cons.mp hends).1.1
        rwa [List.getLast?_append_of_ne_nil _ hn]

/-- A line that fits is one line. -/
theorem lines_of_fits {width : Nat} {line : Text} (hc : columnsOf line ≤ width)
    (hl : line.length ≤ width) : lines width line = [line] := by
  have hd : dropBlankEnd width line = line := by
    rw [dropBlankEnd, Nat.sub_eq_zero_of_le hl, Nat.min_zero, Nat.sub_zero, List.take_length]
  have ht : truncate width line = line := if_pos hc
  rw [lines]
  split
  · rw [hd, ht]
  · next hw =>
    obtain ⟨hf, hchain⟩ := words_eq hw
    have hs := sum_columns_le hchain
    rw [hf] at hs
    rw [place_of_fits (by omega), List.nil_append, hf, List.map_singleton, hd, ht]

end Wrap

namespace Layout

/-- Each line takes no more columns and no more characters than the console has. -/
def Fits (text : Text) : Prop :=
  ∀ line ∈ Text.lines text, Glyph.columnsOf line ≤ width ∧ line.length ≤ width

theorem printed_lines (text : Text) : printed (Text.lines text) = text ++ ['\n'] := by
  induction text with
  | nil => rfl
  | cons c text ih =>
    rw [Text.lines] at ih ⊢
    rw [Text.splitAt]
    split
    · next hc =>
      rw [eq_of_beq hc, List.cons_append, ← ih]
      rfl
    · next hn => exact absurd hn (Text.splitAt_ne_nil _ text)
    · next first pieces hs =>
      rw [hs] at ih
      rw [List.cons_append, ← ih]
      rfl

/-- A text that fits and holds nothing that a console acts on is printed as it is. -/
theorem lines_of_fits {text : Text} (hf : Fits text)
    (h : ∀ c ∈ text, c ≠ '\t' ∧ isDropped c = false) : lines text = Text.lines text := by
  have hkept : text.filter (fun c => !isDropped c) = text := by
    refine List.filter_eq_self.mpr fun c hc => ?_
    rw [(h c hc).2]
    rfl
  have hline : ∀ line ∈ Text.lines text, Wrap.lines width (expandTabs line) = [line] := by
    intro line hl
    have htab : expandTabs line = line := by
      rw [expandTabs, Text.splitAt_eq_singleton fun c hc => ?_]
      · rfl
      · exact beq_false_of_ne (h c (Text.subset_of_mem_splitAt hl hc)).1
    rw [htab]
    exact Wrap.lines_of_fits (hf line hl).1 (hf line hl).2
  rw [lines, linesIn, if_neg (by decide), hkept, List.flatMap_congr hline]
  exact List.flatMap_singleton' _

end Layout

end Reckoner
