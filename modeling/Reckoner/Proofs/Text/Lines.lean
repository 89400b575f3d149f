import Reckoner.Text

/-! # Lines

A text is some whole lines, each with its end, and then the start of one more line, which is empty
if the text ends in a line end. Splitting gives these lines back, and the number of line ends tells
how many of them there are.
-/
namespace Reckoner.Text
variable {α : Type} {isSeparator : α → Bool} {xs : List α}

theorem takeWhile_append_stop {p : α → Bool} {front back : List α}
    (hf : ∀ x ∈ front, p x = true) (hb : ∀ x ∈ back.head?, p x = false) :
    (front ++ back).takeWhile p = front ∧ (front ++ back).dropWhile p = back := by
  rw [List.takeWhile_append_of_pos hf, List.dropWhile_append_of_pos hf]
  cases back with
  | nil => simp
  | cons x back => simp [hb x rfl]

theorem splitAt_eq_splitOnP (isSeparator : α → Bool) (xs : List α) :
    splitAt isSeparator xs = xs.splitOnP isSeparator := by
  induction xs with
  | nil => rw [splitAt, List.splitOnP_nil]
  | cons x xs ih =>
    rw [splitAt, ih, List.splitOnP_cons_eq_if_modifyHead]
    cases isSeparator x with
    | true => rfl
    | false =>
      cases hs : xs.splitOnP isSeparator with
      | nil => exact absurd hs (List.splitOnP_ne_nil _ _)
      | cons => rfl

theorem splitAt_eq_singleton (h : ∀ x ∈ xs, isSeparator x = false) :
    splitAt isSeparator xs = [xs] := by
  rw [splitAt_eq_splitOnP]
  exact List.splitOnP_eq_singleton h

theorem splitAt_ne_nil (isSeparator : α → Bool) (xs : List α) : splitAt isSeparator xs ≠ [] := by
  rw [splitAt_eq_splitOnP]
  exact List.splitOnP_ne_nil _ _

theorem splitAt_append_cons (h : ∀ x ∈ xs, isSeparator x = false) {sep : α}
    (hs : isSeparator sep = true) (rest : List α) :
    splitAt isSeparator (xs ++ sep :: rest) = xs :: splitAt isSeparator rest := by
  rw [splitAt_eq_splitOnP, splitAt_eq_splitOnP]
  exact List.splitOnP_append_cons_of_forall_mem h sep hs rest

theorem splitAt_append (h : ∀ x ∈ xs, isSeparator x = false) {rest piece : List α}
    {pieces : List (List α)} (hp : splitAt isSeparator rest = piece :: pieces) :
    splitAt isSeparator (xs ++ rest) = (xs ++ piece) :: pieces := by
  induction xs with
  | nil => exact hp
  | cons x xs ih =>
    obtain ⟨hx, hxs⟩ := List.forall_mem_cons.mp h
    rw [List.cons_append, splitAt, hx, ih hxs]
    rfl

theorem head?_of_splitAt {piece : List α} {pieces : List (List α)}
    (h : splitAt isSeparator xs = piece :: pieces) :
    piece.head? = xs.head?.filter fun x => !isSeparator x := by
  cases xs with
  | nil =>
    cases h
    rfl
  | cons x xs =>
    rw [splitAt] at h
    split at h
    · next hx =>
      cases h
      simp [Option.filter, hx]
    · next hn => exact absurd hn (splitAt_ne_nil isSeparator xs)
    · next hx _ =>
      cases h
      simp [Option.filter, hx]

theorem mem_of_mem_splitAt {piece : List α} (h : piece ∈ splitAt isSeparator xs) {x : α}
    (hx : x ∈ piece) : x ∈ xs ∧ isSeparator x = false := by
  induction xs generalizing piece with
  | nil =>
    rw [List.mem_singleton.mp h] at hx
    cases hx
  | cons y xs ih =>
    rw [splitAt] at h
    split at h
    · rcases List.mem_cons.mp h with rfl | h
      · cases hx
      · obtain ⟨hm, hn⟩ := ih h hx
        exact ⟨List.mem_cons_of_mem _ hm, hn⟩
    · next hn => exact absurd hn (splitAt_ne_nil isSeparator xs)
    · next first pieces hy hs =>
      rw [hs] at ih
      rcases List.mem_cons.mp h with rfl | h
      · rcases List.mem_cons.mp hx with rfl | hx
        · exact ⟨List.mem_cons_self, hy⟩
        · obtain ⟨hm, hn⟩ := ih List.mem_cons_self hx
          exact ⟨List.mem_cons_of_mem _ hm, hn⟩
      · obtain ⟨hm, hn⟩ := ih (List.mem_cons_of_mem _ h) hx
        exact ⟨List.mem_cons_of_mem _ hm, hn⟩

theorem subset_of_mem_splitAt {piece : List α} (h : piece ∈ splitAt isSeparator xs) :
    piece ⊆ xs := fun _ hx => (mem_of_mem_splitAt h hx).1

def ended (sep : α) (lines : List (List α)) : List α := lines.flatMap fun line => line ++ [sep]

section Ended
variable {sep : α} {lines : List (List α)}

theorem exists_ended (hs : ∀ x, isSeparator x = true → x = sep) (xs : List α) :
    ∃ lines start, xs = ended sep lines ++ start ∧
      (∀ line ∈ lines, ∀ x ∈ line, isSeparator x = false) ∧
        ∀ x ∈ start, isSeparator x = false := by
  induction xs with
  | nil => exact ⟨[], [], rfl, nofun, nofun⟩
  | cons x xs ih =>
    obtain ⟨lines, start, rfl, hl, hf⟩ := ih
    cases hx : isSeparator x with
    | true =>
      obtain rfl := hs x hx
      refine ⟨[] :: lines, start, rfl, ?_, hf⟩
      exact List.forall_mem_cons.mpr ⟨nofun, hl⟩
    | false =>
      cases lines with
      | nil => exact ⟨[], x :: start, rfl, nofun, List.forall_mem_cons.mpr ⟨hx, hf⟩⟩
      | cons line lines =>
        obtain ⟨hline, hrest⟩ := List.forall_mem_cons.mp hl
        refine ⟨(x :: line) :: lines, start, rfl, ?_, hf⟩
        exact List.forall_mem_cons.mpr ⟨List.forall_mem_cons.mpr ⟨hx, hline⟩, hrest⟩

variable (hs : isSeparator sep = true)
  (hl : ∀ line ∈ lines, ∀ x ∈ line, isSeparator x = false)
include hs hl

theorem splitAt_ended (rest : List α) :
    splitAt isSeparator (ended sep lines ++ rest) = lines ++ splitAt isSeparator rest := by
  induction lines with
  | nil => rfl
  | cons line lines ih =>
    obtain ⟨hline, hrest⟩ := List.forall_mem_cons.mp hl
    have he : ended sep (line :: lines) ++ rest = line ++ sep :: (ended sep lines ++ rest) := by
      simp [ended]
    rw [he, splitAt_append_cons hline hs, ih hrest, List.cons_append]

theorem countP_ended : (ended sep lines).countP isSeparator = lines.length := by
  induction lines with
  | nil => rfl
  | cons line lines ih =>
    obtain ⟨hline, hrest⟩ := List.forall_mem_cons.mp hl
    have hz : line.countP isSeparator = 0 := by
      apply List.countP_eq_zero.mpr
      intro x hx
      simp [hline x hx]
    have he : ended sep (line :: lines) = line ++ sep :: ended sep lines := by
      simp [ended]
    rw [he, List.countP_append, hz, List.countP_cons_of_pos hs, ih hrest, Nat.zero_add,
      List.length_cons]

/-- The start of a line goes back to the last line end. -/
theorem takeWhile_reverse_ended {start : List α} (hf : ∀ x ∈ start, isSeparator x = false) :
    (ended sep lines ++ start).reverse.takeWhile (fun x => !isSeparator x) = start.reverse := by
  have hr : ∀ x ∈ start.reverse, (!isSeparator x) = true := by
    intro x hx
    simp [hf x (List.mem_reverse.mp hx)]
  rw [List.reverse_append, List.takeWhile_append_of_pos hr]
  rcases List.eq_nil_or_concat lines with rfl | ⟨front, line, rfl⟩
  · simp [ended]
  · simp [ended, hs]

end Ended

end Reckoner.Text
