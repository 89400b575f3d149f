import Mathlib.Data.List.DropRight
import Reckoner.Text

/-! # Trimmed texts

Trimming leaves the one part of a text that neither starts nor ends with a blank and has nothing but
blanks around it.
-/
namespace Reckoner.Text
variable {isBlank : Char → Bool} {text core : Text}

structure Core (isBlank : Char → Bool) (text core : Text) : Prop where
  around : ∃ before after, text = before ++ (core ++ after) ∧
    (∀ c ∈ before, isBlank c = true) ∧ ∀ c ∈ after, isBlank c = true
  first : ∀ c ∈ core.head?, isBlank c = false
  last : ∀ c ∈ core.getLast?, isBlank c = false

theorem trim_eq_rdropWhile (isBlank : Char → Bool) (text : Text) :
    trim isBlank text = (text.dropWhile isBlank).rdropWhile isBlank := rfl

theorem Core.eq_trim (h : Core isBlank text core) : core = trim isBlank text := by
  obtain ⟨⟨before, after, rfl, hb, ha⟩, hfirst, hlast⟩ := h
  have hafter : after.dropWhile isBlank = [] := List.dropWhile_eq_nil_iff.mpr ha
  rw [trim_eq_rdropWhile, List.dropWhile_append_of_pos hb]
  cases core with
  | nil =>
    rw [List.nil_append, hafter]
    rfl
  | cons c rest =>
    have hc : ¬isBlank c = true := by
      rw [hfirst c rfl]
      exact Bool.false_ne_true
    rw [List.cons_append, List.dropWhile_cons_of_neg hc, ← List.cons_append]
    unfold List.rdropWhile
    have hreverse : ∀ d ∈ after.reverse, isBlank d = true := fun d hd =>
      ha d (List.mem_reverse.mp hd)
    rw [List.reverse_append, List.dropWhile_append_of_pos hreverse]
    have hend : (c :: rest).rdropWhile isBlank = c :: rest := by
      apply List.rdropWhile_eq_self_iff.mpr
      intro hne
      rw [hlast _ (List.getLast?_eq_some_getLast hne)]
      exact Bool.false_ne_true
    exact hend.symm

theorem trim_core (isBlank : Char → Bool) (text : Text) :
    Core isBlank text (trim isBlank text) := by
  rw [trim_eq_rdropWhile]
  generalize hd : text.dropWhile isBlank = rest
  constructor
  · refine ⟨text.takeWhile isBlank, rest.rtakeWhile isBlank, ?_, ?_, ?_⟩
    · rw [List.rdropWhile_append_rtakeWhile, ← hd, List.takeWhile_append_dropWhile]
    · exact fun c hc => List.mem_takeWhile_imp hc
    · exact fun c hc => List.mem_rtakeWhile_imp hc
  · intro c hc
    obtain ⟨more, hm⟩ := List.rdropWhile_prefix isBlank rest
    have hhead : rest.head? = some c := by
      rw [← hm, List.head?_append, hc, Option.some_or]
    have hnot := List.head?_dropWhile_not isBlank text
    rw [hd, hhead] at hnot
    exact hnot
  · intro c hc
    obtain ⟨hne, rfl⟩ := List.mem_getLast?_eq_getLast hc
    exact (Bool.not_eq_true _).mp (List.rdropWhile_last_not isBlank rest hne)

theorem trim_eq_self (h : ∀ c ∈ text, isBlank c = false) : trim isBlank text = text := by
  refine (Core.eq_trim ⟨⟨[], [], ?_, List.forall_mem_nil _, List.forall_mem_nil _⟩, ?_, ?_⟩).symm
  · rw [List.nil_append, List.append_nil]
  · intro c hc
    exact h c (List.mem_of_mem_head? hc)
  · intro c hc
    exact h c (List.mem_of_mem_getLast? hc)

end Reckoner.Text
