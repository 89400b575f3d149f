import Reckoner.Proofs.Console.Plain

/-! # Escaped text

Where escaped text is scanned for tags, each backslash that was added turns the tag after it into
plain text, and no tag comes about that was not there before. So escaped text has no tags, whatever
harmless text comes after it.
-/
namespace Reckoner.Markup

/-! ## Tags -/

/-- No closing bracket comes before an opening one. -/
def Blocked : Text → Prop
  | [] => True
  | c :: rest => c = '[' ∨ (c ≠ ']' ∧ Blocked rest)

theorem blocked_or_closed (text : Text) : Blocked text ∨
    ∃ more after, text = more ++ ']' :: after ∧ ∀ c ∈ more, c ≠ ']' ∧ c ≠ '[' := by
  induction text with
  | nil => exact .inl trivial
  | cons c rest ih =>
    by_cases ho : c = '['
    · exact .inl (.inl ho)
    · by_cases hc : c = ']'
      · exact .inr ⟨[], rest, by rw [hc]; rfl, List.forall_mem_nil _⟩
      · rcases ih with hb | ⟨more, after, rfl, hm⟩
        · exact .inl (.inr ⟨hc, hb⟩)
        · exact .inr ⟨c :: more, after, rfl, List.forall_mem_cons.mpr ⟨⟨hc, ho⟩, hm⟩⟩

theorem Blocked.append {front back : Text} (hf : Blocked front) (hb : Blocked back) :
    Blocked (front ++ back) := by
  induction front with
  | nil => exact hb
  | cons c front ih =>
    rcases hf with hc | ⟨hc, hf⟩
    · exact .inl hc
    · exact .inr ⟨hc, ih hf⟩

theorem Blocked.opens {text : Text} (h : Blocked text) :
    text.dropWhile (· != ']') = [] ∨ '[' ∈ text.takeWhile (· != ']') := by
  induction text with
  | nil => exact .inl rfl
  | cons c rest ih =>
    rcases h with rfl | ⟨hc, h⟩
    · exact .inr (by simp)
    · have hne : (c != ']') = true := bne_iff_ne.mpr hc
      rw [List.dropWhile_cons, List.takeWhile_cons, if_pos hne, if_pos hne]
      exact (ih h).imp_right (List.mem_cons_of_mem c)

theorem tagContent?_blocked {rest : Text} (h : Blocked rest) (c : Char) :
    tagContent? (c :: rest) = none := by
  simp only [tagContent?]
  rcases h.opens with hd | hm
  · rw [hd]
  · rw [List.contains_iff_mem.mpr hm, Bool.not_true, Bool.and_false]
    split
    · rfl
    · rfl

theorem tagContent?_closed {c : Char} {more : Text} (hm : ∀ d ∈ more, d ≠ ']' ∧ d ≠ '[')
    (after : Text) : tagContent? (c :: (more ++ ']' :: after)) =
      if startsTag c then some (c :: more, after) else none := by
  have hbefore : ∀ d ∈ more, (d != ']') = true := fun d hd => bne_iff_ne.mpr (hm d hd).1
  obtain ⟨ht, hd⟩ := Text.takeWhile_append_stop hbefore
    (show ∀ d ∈ (']' :: after : Text).head?, (d != ']') = false by rintro d ⟨⟩; rfl)
  have ho : more.contains '[' = false := by
    apply Bool.eq_false_of_not_eq_true
    rw [List.contains_iff_mem]
    exact fun h => (hm '[' h).2 rfl
  simp only [tagContent?, ht, hd, ho, Bool.not_false, Bool.and_true]

theorem tagContent?_eq_none {c : Char} {rest : Text} (h : tagContent? (c :: rest) = none) :
    startsTag c = false ∨ Blocked rest := by
  rcases blocked_or_closed rest with hb | ⟨more, after, rfl, hm⟩
  · exact .inr hb
  · rw [tagContent?_closed hm] at h
    split at h
    · cases h
    · next hc => exact .inl (Bool.eq_false_of_not_eq_true hc)

theorem tagContent?_start {c : Char} (h : startsTag c = false) (rest : Text) :
    tagContent? (c :: rest) = none := by
  rcases blocked_or_closed rest with hb | ⟨more, after, rfl, hm⟩
  · exact tagContent?_blocked hb c
  · rw [tagContent?_closed hm, h, if_neg Bool.false_ne_true]

theorem tagContent?_eq_some {text content after : Text}
    (h : tagContent? text = some (content, after)) : ∃ c more, content = c :: more ∧
      text = c :: (more ++ ']' :: after) ∧ startsTag c = true ∧ ∀ d ∈ more, d ≠ ']' ∧ d ≠ '[' := by
  cases text with
  | nil => cases h
  | cons c rest =>
    rcases blocked_or_closed rest with hb | ⟨more, after', rfl, hm⟩
    · rw [tagContent?_blocked hb] at h
      cases h
    · rw [tagContent?_closed hm] at h
      split at h
      · next hc =>
        cases h
        exact ⟨c, more, rfl, rfl, hc, hm⟩
      · cases h

theorem tagAt?_open (rest : Text) :
    tagAt? ('[' :: rest) = (tagContent? rest).map fun r => (0, r.1, r.2) := rfl

theorem tagAt?_slash (rest : Text) :
    tagAt? ('\\' :: rest) = (tagAt? rest).map fun r => (r.1 + 1, r.2) := by
  have hd : ('\\' :: rest).dropWhile (· == '\\') = rest.dropWhile (· == '\\') := rfl
  have ht : ('\\' :: rest).takeWhile (· == '\\') = '\\' :: rest.takeWhile (· == '\\') := rfl
  unfold tagAt?
  rw [hd, ht]
  split
  · rw [Option.map_map]
    rfl
  · rfl

theorem tagAt?_other {c : Char} (hs : c ≠ '\\') (ho : c ≠ '[') (rest : Text) :
    tagAt? (c :: rest) = none := by
  have hd : (c :: rest).dropWhile (· == '\\') = c :: rest := by
    rw [List.dropWhile_cons, if_neg (by simpa using hs)]
  unfold tagAt?
  rw [hd]
  split
  · next h =>
    cases h
    exact absurd rfl ho
  · rfl

theorem tagAt?_slashes (count : Nat) (rest : Text) :
    tagAt? (List.replicate count '\\' ++ '[' :: rest) =
      (tagContent? rest).map fun r => (count, r.1, r.2) := by
  induction count with
  | zero => exact tagAt?_open rest
  | succ count ih =>
    rw [List.replicate_succ, List.cons_append, tagAt?_slash, ih, Option.map_map]
    rfl

/-- A tag stands after its backslashes, in brackets. -/
theorem tagAt?_eq_some {text content after : Text} {slashes : Nat}
    (h : tagAt? text = some (slashes, content, after)) :
    text = List.replicate slashes '\\' ++ '[' :: (content ++ ']' :: after) ∧
      ∀ rest, tagContent? (content ++ ']' :: rest) = some (content, rest) := by
  induction text generalizing slashes with
  | nil => cases h
  | cons c rest ih =>
    by_cases hs : c = '\\'
    · subst hs
      rw [tagAt?_slash] at h
      obtain ⟨⟨count, content, after⟩, hr, he⟩ := Option.map_eq_some_iff.mp h
      cases he
      obtain ⟨rfl, ht⟩ := ih hr
      exact ⟨rfl, ht⟩
    · by_cases ho : c = '['
      · subst ho
        rw [tagAt?_open] at h
        obtain ⟨⟨content, after⟩, hr, he⟩ := Option.map_eq_some_iff.mp h
        cases he
        obtain ⟨d, more, rfl, rfl, hd, hm⟩ := tagContent?_eq_some hr
        refine ⟨rfl, fun other => ?_⟩
        rw [List.cons_append, tagContent?_closed hm, if_pos hd]
      · rw [tagAt?_other hs ho] at h
        cases h

/-! ## Escaping -/

/-- What may come after escaped text without making a tag of its end. -/
structure Safe (tail : Text) : Prop where
  start : ∀ c ∈ tail.head?, startsTag c = false
  tag : tagAt? tail = none
  blocked : Blocked tail

theorem blocked_slashes (count : Nat) (rest : Text) :
    Blocked (List.replicate count '\\' ++ '[' :: rest) := by
  induction count with
  | zero => exact .inl rfl
  | succ count ih => exact .inr ⟨by decide, ih⟩

theorem escapeFrom_tag {c : Char} {rest content after : Text} {slashes : Nat}
    (h : tagAt? (c :: rest) = some (slashes, content, after)) (steps : Nat) (tail : Text) :
    escapeFrom (steps + 1) (c :: rest) ++ tail =
      List.replicate (2 * slashes + 1) '\\' ++
        '[' :: (content ++ ']' :: (escapeFrom steps after ++ tail)) := by
  rw [escapeFrom, h]
  simp only [List.append_assoc, List.cons_append]

theorem escapeFrom_other {c : Char} {rest : Text} (h : tagAt? (c :: rest) = none) (steps : Nat) :
    escapeFrom (steps + 1) (c :: rest) = c :: escapeFrom steps rest := by
  rw [escapeFrom, h]

theorem escapeFrom_nil (steps : Nat) : escapeFrom steps [] = [] := by
  cases steps <;> rfl

section Escape
variable {tail : Text} (ht : Safe tail)
include ht

theorem blocked_escape {steps : Nat} {text : Text} (h : Blocked text) :
    Blocked (escapeFrom steps text ++ tail) := by
  induction steps generalizing text with
  | zero => exact h.append ht.blocked
  | succ steps ih =>
    cases text with
    | nil => exact ht.blocked
    | cons c rest =>
      cases htag : tagAt? (c :: rest) with
      | some tag =>
        obtain ⟨slashes, content, after⟩ := tag
        rw [escapeFrom_tag htag]
        exact blocked_slashes _ _
      | none =>
        rw [escapeFrom_other htag]
        exact h.imp_right fun h => ⟨h.1, ih h.2⟩

theorem tagContent?_escape {steps : Nat} {text : Text} (h : tagContent? text = none)
    (hs : text.length ≤ steps) : tagContent? (escapeFrom steps text ++ tail) = none := by
  cases text with
  | nil =>
    rw [escapeFrom_nil, List.nil_append]
    cases tail with
    | nil => rfl
    | cons c tail => exact tagContent?_start (ht.start c rfl) tail
  | cons c rest =>
    obtain ⟨fewer, rfl⟩ : ∃ fewer, steps = fewer + 1 := Nat.exists_eq_add_one.mpr (by
      rw [List.length_cons] at hs
      omega)
    cases htag : tagAt? (c :: rest) with
    | some tag =>
      obtain ⟨slashes, content, after⟩ := tag
      rw [escapeFrom_tag htag]
      exact tagContent?_start (by decide) _
    | none =>
      rw [escapeFrom_other htag, List.cons_append]
      rcases tagContent?_eq_none h with hc | hb
      · exact tagContent?_start hc _
      · exact tagContent?_blocked (blocked_escape ht hb) c

theorem tagAt?_escape {steps : Nat} {text : Text} (h : tagAt? text = none)
    (hs : text.length ≤ steps) : tagAt? (escapeFrom steps text ++ tail) = none := by
  induction text generalizing steps with
  | nil =>
    rw [escapeFrom_nil]
    exact ht.tag
  | cons c rest ih =>
    obtain ⟨fewer, rfl⟩ : ∃ fewer, steps = fewer + 1 := Nat.exists_eq_add_one.mpr (by
      rw [List.length_cons] at hs
      omega)
    have hle : rest.length ≤ fewer := Nat.le_of_succ_le_succ hs
    rw [escapeFrom_other h, List.cons_append]
    by_cases hslash : c = '\\'
    · subst hslash
      rw [tagAt?_slash, Option.map_eq_none_iff] at h ⊢
      exact ih h hle
    · by_cases hopen : c = '['
      · subst hopen
        rw [tagAt?_open, Option.map_eq_none_iff] at h ⊢
        exact tagContent?_escape ht h hle
      · exact tagAt?_other hslash hopen _

end Escape

/-! ## Parts -/

def Part.IsPlain (part : Part) : Prop := ∃ text, part = .plain text

/-- The parts of a text after plain text that is collected in reverse. -/
def partsAfter (before text : Text) : List Part := partsFrom text.length before text

theorem length_after {text content after : Text} {slashes : Nat}
    (h : tagAt? text = some (slashes, content, after)) : after.length < text.length := by
  have hl := congrArg List.length (tagAt?_eq_some h).1
  simp only [List.length_append, List.length_cons] at hl
  omega

theorem partsFrom_steps {n m : Nat} {text : Text} (hn : text.length ≤ n) (hm : text.length ≤ m)
    (before : Text) : partsFrom n before text = partsFrom m before text := by
  induction n generalizing m text before with
  | zero =>
    cases text with
    | nil => cases m <;> simp [partsFrom]
    | cons c rest => simp at hn
  | succ n ih =>
    cases text with
    | nil => cases m <;> simp [partsFrom]
    | cons c rest =>
      cases m with
      | zero => simp at hm
      | succ m =>
        rw [List.length_cons] at hn hm
        rw [partsFrom, partsFrom]
        cases htag : tagAt? (c :: rest) with
        | none => exact ih (by omega) (by omega) _
        | some tag =>
          obtain ⟨slashes, content, after⟩ := tag
          have hlt := length_after htag
          rw [List.length_cons] at hlt
          dsimp only
          rw [ih (m := m) (by omega) (by omega) []]

theorem partsAfter_nil (before : Text) : partsAfter before [] = [.plain before.reverse] := by
  rw [partsAfter, List.length_nil, partsFrom, List.append_nil]

theorem partsAfter_other {c : Char} {rest : Text} (h : tagAt? (c :: rest) = none) (before : Text) :
    partsAfter before (c :: rest) = partsAfter (c :: before) rest := by
  rw [partsAfter, List.length_cons, partsFrom, h]
  rfl

theorem partsAfter_tag {text content after : Text} {slashes : Nat}
    (h : tagAt? text = some (slashes, content, after)) (before : Text) :
    partsAfter before text = .plain before.reverse :: .plain (List.replicate (slashes / 2) '\\') ::
      (if slashes % 2 = 1 then .plain ('[' :: content ++ [']']) else .tag (.ofContent content)) ::
        partsAfter [] after := by
  cases text with
  | nil => cases h
  | cons c rest =>
    have hlt := length_after h
    rw [partsAfter, List.length_cons, partsFrom, h]
    dsimp only
    rw [partsFrom_steps (Nat.le_of_lt_succ hlt) (Nat.le_refl _)]
    rfl

theorem exists_start (before text : Text) :
    ∃ w more, partsAfter before text = .plain (before.reverse ++ w) :: more := by
  induction text generalizing before with
  | nil => exact ⟨[], [], by rw [partsAfter_nil, List.append_nil]⟩
  | cons c rest ih =>
    cases htag : tagAt? (c :: rest) with
    | none =>
      obtain ⟨w, more, hp⟩ := ih (c :: before)
      refine ⟨c :: w, more, ?_⟩
      rw [partsAfter_other htag, hp, List.reverse_cons, List.append_assoc, List.singleton_append]
    | some tag =>
      obtain ⟨slashes, content, after⟩ := tag
      exact ⟨[], _, by rw [partsAfter_tag htag, List.append_nil]⟩

theorem exists_plain {tail : Text} (ht : Safe tail) {steps : Nat} {text : Text}
    (hs : text.length ≤ steps) (before : Text) : ∃ front last,
      (∀ part ∈ front, part.IsPlain) ∧
        partsAfter before (escapeFrom steps text ++ tail) = front ++ partsAfter last tail := by
  induction steps generalizing text before with
  | zero =>
    rw [List.length_eq_zero_iff.mp (Nat.le_zero.mp hs)]
    exact ⟨[], before, List.forall_mem_nil _, rfl⟩
  | succ steps ih =>
    cases text with
    | nil => exact ⟨[], before, List.forall_mem_nil _, rfl⟩
    | cons c rest =>
      have hle : rest.length ≤ steps := Nat.le_of_succ_le_succ hs
      cases htag : tagAt? (c :: rest) with
      | none =>
        obtain ⟨front, last, hf, hp⟩ := ih hle (c :: before)
        refine ⟨front, last, hf, ?_⟩
        have hn := tagAt?_escape ht htag hs
        rw [escapeFrom_other htag, List.cons_append] at hn ⊢
        rw [partsAfter_other hn, hp]
      | some tag =>
        obtain ⟨slashes, content, after⟩ := tag
        have hlt := length_after htag
        rw [List.length_cons] at hlt
        obtain ⟨front, last, hf, hp⟩ := @ih after (by omega) []
        have hsome : tagAt? (escapeFrom (steps + 1) (c :: rest) ++ tail) =
            some (2 * slashes + 1, content, escapeFrom steps after ++ tail) := by
          rw [escapeFrom_tag htag, tagAt?_slashes, (tagAt?_eq_some htag).2]
          rfl
        have hodd : (2 * slashes + 1) % 2 = 1 := by omega
        refine ⟨.plain before.reverse :: .plain (List.replicate ((2 * slashes + 1) / 2) '\\') ::
          .plain ('[' :: content ++ [']']) :: front, last, ?_, ?_⟩
        · simp only [List.forall_mem_cons]
          exact ⟨⟨_, rfl⟩, ⟨_, rfl⟩, ⟨_, rfl⟩, hf⟩
        · rw [partsAfter_tag hsome, if_pos hodd, hp]
          rfl

theorem partsAfter_run {w : Text} (hw : ∀ c ∈ w, c ≠ '\\' ∧ c ≠ '[') (before rest : Text) :
    partsAfter before (w ++ rest) = partsAfter (w.reverse ++ before) rest := by
  induction w generalizing before with
  | nil => rfl
  | cons c w ih =>
    obtain ⟨⟨hs, ho⟩, hw⟩ := List.forall_mem_cons.mp hw
    rw [List.cons_append, partsAfter_other (tagAt?_other hs ho _), ih hw, List.reverse_cons,
      List.append_assoc]
    rfl

end Reckoner.Markup
