import Mathlib.Data.Nat.Digits.Defs
import Reckoner.Error.Parse
import Reckoner.Proofs.Text.Character
import Reckoner.Proofs.Text.Lines

/-! # Where errors point

The offset of an error lies in its source, which it divides into whole lines, the start of a line
and the rest. The line counts the whole lines, the column is as long as the start, and the line that
is shown goes on with the rest. So line and column tell the offset, and the caret stands below what
is at the offset, however wide the line number is.
-/
namespace Reckoner

namespace ErrorContext
open Text (ended splitAt)

/-- What is before the offset are whole lines and the start of another one. -/
structure Divides (context : ErrorContext) (lines : List (List CodePoint))
    (start rest : List CodePoint) : Prop where
  source_eq : context.source = ended (.scalar '\n') lines ++ start ++ rest
  offset_eq : context.offset = (ended (.scalar '\n') lines ++ start).length
  whole : ∀ line ∈ lines, ∀ p ∈ line, isLineEnd p = false
  started : ∀ p ∈ start, isLineEnd p = false

def offsetAt (source : List CodePoint) (line : Nat) (column : Int) : Int :=
  (ended (.scalar '\n') ((splitAt isLineEnd source).take (line - 1))).length + (column - 1)

theorem eq_of_isLineEnd (p : CodePoint) (h : isLineEnd p = true) : p = .scalar '\n' := by
  cases p with
  | scalar c => exact congrArg CodePoint.scalar (eq_of_beq h)
  | surrogate => cases h

theorem exists_divides (source : List CodePoint) {n : Nat} (h : n ≤ source.length) :
    ∃ lines start rest, Divides ⟨source, n⟩ lines start rest := by
  obtain ⟨lines, start, hs, hl, hf⟩ := Text.exists_ended eq_of_isLineEnd (source.take n)
  refine ⟨lines, start, source.drop n, ?_, ?_, hl, hf⟩
  · rw [← hs, List.take_append_drop]
  · rw [← hs, List.length_take_of_le h]

section Divides
variable {context : ErrorContext} {lines : List (List CodePoint)} {start rest : List CodePoint}
  (h : context.Divides lines start rest)
include h

theorem Divides.before_eq : context.before = ended (.scalar '\n') lines ++ start := by
  unfold before
  dsimp only
  rw [h.offset_eq, if_neg (Int.not_lt.mpr (Int.natCast_nonneg _)), Int.toNat_natCast, h.source_eq,
    List.take_left]

theorem Divides.line_eq : context.line = lines.length + 1 := by
  have hz : start.countP isLineEnd = 0 := by
    apply List.countP_eq_zero.mpr
    intro p hp
    simp [h.started p hp]
  rw [line, h.before_eq, List.countP_append, Text.countP_ended rfl h.whole, hz, Nat.add_zero]

theorem Divides.lineStart_eq :
    context.lineStart = (ended (CodePoint.scalar '\n') lines).length := by
  unfold lineStart
  rw [h.before_eq, Text.takeWhile_reverse_ended rfl h.whole h.started, List.length_reverse,
    List.length_append, Nat.add_sub_cancel]

theorem Divides.column_eq : context.column = start.length + 1 := by
  rw [column, h.lineStart_eq, h.offset_eq, List.length_append]
  omega

theorem Divides.splitAt_eq :
    splitAt isLineEnd context.source = lines ++ splitAt isLineEnd (start ++ rest) := by
  rw [h.source_eq, List.append_assoc, Text.splitAt_ended rfl h.whole]

/-- The line shown goes on after its start with what is left of the source's line. -/
theorem Divides.exists_tail : ∃ tail : List CodePoint,
    (splitAt isLineEnd context.source)[context.line - 1]? = some context.sourceLine ∧
      context.sourceLine = start ++ tail ∧
        tail.head? = rest.head?.filter fun p => !isLineEnd p := by
  obtain ⟨tail, more, ht⟩ := List.exists_cons_of_ne_nil (Text.splitAt_ne_nil isLineEnd rest)
  have hi : (splitAt isLineEnd context.source)[context.line - 1]? = some (start ++ tail) := by
    rw [h.splitAt_eq, Text.splitAt_append h.started ht, h.line_eq, Nat.add_sub_cancel,
      List.getElem?_append_right (Nat.le_refl _), Nat.sub_self, List.getElem?_cons_zero]
  have hl : context.sourceLine = start ++ tail := by
    rw [sourceLine, List.getD_eq_getElem?_getD, hi, Option.getD_some]
  refine ⟨tail, ?_, hl, Text.head?_of_splitAt ht⟩
  rw [hl, hi]

theorem Divides.offsetAt_eq :
    offsetAt context.source context.line context.column = context.offset := by
  have ht : (splitAt isLineEnd context.source).take (context.line - 1) = lines := by
    rw [h.splitAt_eq, h.line_eq, Nat.add_sub_cancel, List.take_left]
  rw [offsetAt, ht, h.column_eq, h.offset_eq, List.length_append]
  omega

end Divides

theorem before_eq_take (source : List CodePoint) (n : Nat) :
    before ⟨source, n⟩ = source.take n := by
  unfold before
  dsimp only
  rw [if_neg (Int.not_lt.mpr (Int.natCast_nonneg _)), Int.toNat_natCast]

theorem place_lt {source : List CodePoint} {a b : Nat} (hab : a < b) (hb : b ≤ source.length) :
    line ⟨source, a⟩ < line ⟨source, b⟩ ∨
      line ⟨source, a⟩ = line ⟨source, b⟩ ∧ column ⟨source, a⟩ < column ⟨source, b⟩ := by
  obtain ⟨lines, start, rest, ha⟩ := exists_divides source (n := a) (by omega)
  have hs := ha.source_eq
  have ho := Int.natCast_inj.mp ha.offset_eq
  have hl := congrArg List.length hs
  dsimp only at hs
  simp only [List.length_append] at hl ho
  -- what lies between the two offsets
  obtain ⟨mid, after, rfl, hm⟩ : ∃ mid after, rest = mid ++ after ∧ mid.length = b - a :=
    ⟨_, _, (List.take_append_drop (b - a) rest).symm, List.length_take_of_le (by omega)⟩
  by_cases hf : ∀ p ∈ mid, isLineEnd p = false
  · have hd : Divides ⟨source, b⟩ lines (start ++ mid) after := by
      refine ⟨?_, ?_, ha.whole, List.forall_mem_append.mpr ⟨ha.started, hf⟩⟩
      · simpa only [List.append_assoc] using hs
      · simp only [List.length_append]
        omega
    right
    rw [ha.line_eq, hd.line_eq, ha.column_eq, hd.column_eq, List.length_append]
    omega
  · left
    have ht : source.take b = ended (.scalar '\n') lines ++ start ++ mid := by
      rw [hs, ← List.append_assoc]
      apply List.take_left'
      simp only [List.length_append]
      omega
    have hc : 0 < mid.countP isLineEnd := by
      simpa using hf
    rw [line, line, ha.before_eq, before_eq_take, ht]
    simp only [List.countP_append]
    omega

/-! ## The report -/

theorem plain_ofInt (z : Int) : ∀ c ∈ Text.ofInt z, c ≠ '\n' := by
  cases z with
  | ofNat n => exact Text.plain_ofNat n
  | negSucc n => exact List.forall_mem_cons.mpr ⟨by decide, Text.plain_ofNat (n + 1)⟩

theorem isLineEnd_ofText {text : Text} (h : ∀ c ∈ text, c ≠ '\n') :
    ∀ p ∈ CodePoint.ofText text, isLineEnd p = false := by
  intro p hp
  obtain ⟨c, hc, rfl⟩ := List.mem_map.mp hp
  exact (beq_false_of_ne (h c hc) : (c == '\n') = false)

theorem plain_gutter (context : ErrorContext) : ∀ c ∈ context.gutter, c ≠ '\n' := by
  have hsp : ∀ c ∈ List.replicate (4 - (Text.ofNat context.line).length) ' ', c ≠ '\n' := by
    intro c hc
    rw [List.eq_of_mem_replicate hc]
    decide
  have hbar : ∀ c ∈ " | ".toList, c ≠ '\n' := Text.forall_of_all (by decide)
  exact List.forall_mem_append.mpr
    ⟨List.forall_mem_append.mpr ⟨hsp, Text.plain_ofNat context.line⟩, hbar⟩

theorem isLineEnd_sourceLine (context : ErrorContext) :
    ∀ p ∈ context.sourceLine, isLineEnd p = false := by
  intro p hp
  rw [sourceLine, List.getD_eq_getElem?_getD] at hp
  cases hl : (splitAt isLineEnd context.source)[context.line - 1]? with
  | none =>
    rw [hl] at hp
    cases hp
  | some piece =>
    rw [hl] at hp
    exact (Text.mem_of_mem_splitAt (List.mem_of_getElem? hl) hp).2

/-- The report of an error has three lines: the position, the line shown, and the caret. -/
theorem splitAt_format (context : ErrorContext) : splitAt isLineEnd context.format =
    [CodePoint.ofText (Text.ofNat context.line ++ ':' :: Text.ofInt context.column),
      CodePoint.ofText context.gutter ++ context.sourceLine,
      CodePoint.ofText (List.replicate context.indent ' ' ++ ['^'])] := by
  have hf : context.format =
      CodePoint.ofText (Text.ofNat context.line ++ ':' :: Text.ofInt context.column) ++
        .scalar '\n' :: ((CodePoint.ofText context.gutter ++ context.sourceLine) ++
          .scalar '\n' :: CodePoint.ofText (List.replicate context.indent ' ' ++ ['^'])) := by
    simp [format, CodePoint.ofText]
  have hplace : ∀ c ∈ Text.ofNat context.line ++ ':' :: Text.ofInt context.column, c ≠ '\n' := by
    refine List.forall_mem_append.mpr ⟨Text.plain_ofNat _, ?_⟩
    exact List.forall_mem_cons.mpr ⟨by decide, plain_ofInt _⟩
  have hshown : ∀ p ∈ CodePoint.ofText context.gutter ++ context.sourceLine,
      isLineEnd p = false :=
    List.forall_mem_append.mpr
      ⟨isLineEnd_ofText context.plain_gutter, context.isLineEnd_sourceLine⟩
  have hcaret : ∀ c ∈ List.replicate context.indent ' ' ++ ['^'], c ≠ '\n' := by
    intro c hc
    rcases List.mem_append.mp hc with hc | hc
    · rw [List.eq_of_mem_replicate hc]
      decide
    · rw [List.mem_singleton.mp hc]
      decide
  rw [hf, Text.splitAt_append_cons (isLineEnd_ofText hplace) rfl,
    Text.splitAt_append_cons hshown rfl, Text.splitAt_eq_singleton (isLineEnd_ofText hcaret)]

/-- What the position of an offset of the source tells, and where the caret stands. -/
structure Points (source : List CodePoint) (n : Nat) : Prop where
  line_pos : 1 ≤ line ⟨source, n⟩
  line_valid : (splitAt isLineEnd source)[line ⟨source, n⟩ - 1]? = some (sourceLine ⟨source, n⟩)
  column_pos : 1 ≤ column ⟨source, n⟩
  column_le : column ⟨source, n⟩ - 1 ≤ (sourceLine ⟨source, n⟩).length
  offset_eq : offsetAt source (line ⟨source, n⟩) (column ⟨source, n⟩) = n
  caret : ∃ heading shown index, splitAt isLineEnd (format ⟨source, n⟩) =
      [heading, shown, CodePoint.ofText (List.replicate index ' ' ++ ['^'])] ∧
    (∀ p, source[n]? = some p → p ≠ .scalar '\n' → shown[index]? = some p) ∧
    (source[n]? = none ∨ source[n]? = some (.scalar '\n') → shown.length = index)

theorem points (source : List CodePoint) {n : Nat} (h : n ≤ source.length) : Points source n := by
  obtain ⟨lines, start, rest, hd⟩ := exists_divides source h
  obtain ⟨tail, hvalid, hline, htail⟩ := hd.exists_tail
  have hcolumn := hd.column_eq
  have hrest : source[n]? = rest.head? := by
    have hs := hd.source_eq
    have ho := Int.natCast_inj.mp hd.offset_eq
    dsimp only at hs
    rw [hs, ho, List.getElem?_append_right (Nat.le_refl _), Nat.sub_self, List.head?_eq_getElem?]
  have hindex : indent ⟨source, n⟩ = (gutter ⟨source, n⟩).length + start.length := by
    rw [indent, hcolumn]
    omega
  refine ⟨Nat.le_add_left _ _, hvalid, by omega, ?_, hd.offsetAt_eq, ?_⟩
  · rw [hcolumn, hline, List.length_append]
    omega
  · -- the line shown up to the column is as wide as the indent
    have hshown : CodePoint.ofText (gutter ⟨source, n⟩) ++ sourceLine ⟨source, n⟩ =
        (CodePoint.ofText (gutter ⟨source, n⟩) ++ start) ++ tail := by
      rw [hline, List.append_assoc]
    have hwidth : (CodePoint.ofText (gutter ⟨source, n⟩) ++ start).length =
        indent ⟨source, n⟩ := by
      rw [hindex, List.length_append, CodePoint.ofText, List.length_map]
    refine ⟨_, _, _, splitAt_format _, ?_, ?_⟩
    · intro p hp hn
      have hf : isLineEnd p = false := by
        by_contra ht
        exact hn (eq_of_isLineEnd p (by simpa using ht))
      rw [hrest] at hp
      rw [hp, Option.filter_some, hf] at htail
      rw [hshown, ← hwidth, List.getElem?_append_right (Nat.le_refl _), Nat.sub_self,
        ← List.head?_eq_getElem?, htail]
      rfl
    · intro hn
      have ht : tail = [] := by
        rw [← List.head?_eq_none_iff, htail, ← hrest]
        rcases hn with hn | hn
        · rw [hn]
          rfl
        · rw [hn]
          rfl
      rw [hshown, ht, List.append_nil, hwidth]

end ErrorContext

namespace ParseError

/-- An error made for any offset lies in its source, at that offset if there is one. Its line is a
line of the source and its column a column of the line; both together tell the offset and get larger
with it. The report shows the line with the caret below what is at the offset, or right behind the
line if the line ends there. -/
theorem make_points (cause : Cause) (source : List CodePoint) :
    (∀ offset : Int, ∃ n : Nat, n ≤ source.length ∧
      (make cause (some source) (some offset)).context = some ⟨source, n⟩ ∧
        (0 ≤ offset → offset ≤ source.length → (n : Int) = offset)) ∧
    (∀ n ≤ source.length, ErrorContext.Points source n) ∧
    (∀ a b : Nat, a < b → b ≤ source.length →
      ErrorContext.line ⟨source, a⟩ < ErrorContext.line ⟨source, b⟩ ∨
        ErrorContext.line ⟨source, a⟩ = ErrorContext.line ⟨source, b⟩ ∧
          ErrorContext.column ⟨source, a⟩ < ErrorContext.column ⟨source, b⟩) := by
  refine ⟨?_, fun n h => ErrorContext.points source h, fun a b => ErrorContext.place_lt⟩
  intro offset
  refine ⟨(max 0 (min offset source.length)).toNat, by omega, ?_, by omega⟩
  have hn : ((max 0 (min offset source.length)).toNat : Int) = max 0 (min offset source.length) :=
    Int.toNat_of_nonneg (by omega)
  rw [hn]
  rfl

/-- At a line end the caret stands right behind the line. -/
example : ErrorContext.format ⟨CodePoint.ofText "1+\n2".toList, 2⟩ =
    CodePoint.ofText "1:3\n   1 | 1+\n         ^".toList := by decide

end ParseError

end Reckoner
