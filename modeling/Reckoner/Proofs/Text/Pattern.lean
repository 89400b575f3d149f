import Mathlib.Data.List.Basic
import Reckoner.Text

/-! # Patterns with ordered choice

A matcher tries the ways to match a pattern in a fixed order and takes the first: a run as far as it
goes before any shorter one, a part that may be missing before nothing, and one alternative before
the next. What it takes need not be the longest match. It is if the ways are tried from the longest
to the shortest, and each way of composing patterns keeps that order as long as the parts do not
compete for the same characters.
-/
namespace Reckoner

inductive Pattern
  | one (isPart : Char → Bool)
  | run (isPart : Char → Bool)
  | sequence (first second : Pattern)
  | choice (first second : Pattern)
  | optional (body : Pattern)

namespace Pattern

/-- The language of a pattern. -/
inductive Matches : Pattern → Text → Prop
  | one {isPart : Char → Bool} {c : Char} (hc : isPart c = true) : Matches (.one isPart) [c]
  | run {isPart : Char → Bool} {w : Text} (hne : w ≠ []) (hw : ∀ c ∈ w, isPart c = true) :
      Matches (.run isPart) w
  | sequence {p q : Pattern} {v w : Text} (hv : Matches p v) (hw : Matches q w) :
      Matches (.sequence p q) (v ++ w)
  | left {p q : Pattern} {w : Text} (hw : Matches p w) : Matches (.choice p q) w
  | right {p q : Pattern} {w : Text} (hw : Matches q w) : Matches (.choice p q) w
  | present {p : Pattern} {w : Text} (hw : Matches p w) : Matches (.optional p) w
  | missing {p : Pattern} : Matches (.optional p) []

theorem matches_after_one {isPart : Char → Bool} {q : Pattern} {w : Text}
    (h : (sequence (.one isPart) q).Matches w) :
    ∃ c u, w = c :: u ∧ isPart c = true ∧ q.Matches u := by
  cases h with
  | sequence hc hu =>
    cases hc with
    | one hc => exact ⟨_, _, rfl, hc, hu⟩

theorem one_not_continued {isPart : Char → Bool} {v u : Text} {c : Char}
    (hv : (one isPart).Matches v) : ¬(one isPart).Matches (v ++ c :: u) := by
  intro h
  cases hv
  cases h

/-- What is left after a run at the start, the longest run first. -/
def afterRuns (isPart : Char → Bool) : Text → List Text
  | [] => []
  | c :: rest => if isPart c then afterRuns isPart rest ++ [rest] else []

/-- What is left after a match at the start, for each way to match in the order of trying. -/
def rests : Pattern → Text → List Text
  | one _, [] => []
  | one isPart, c :: rest => if isPart c then [rest] else []
  | run isPart, text => afterRuns isPart text
  | sequence p q, text => (p.rests text).flatMap q.rests
  | choice p q, text => p.rests text ++ q.rests text
  | optional p, text => p.rests text ++ [text]

/-- What is left after the match that is taken. -/
def first? (p : Pattern) (text : Text) : Option Text := (p.rests text).head?

theorem mem_afterRuns {isPart : Char → Bool} {text rest : Text} :
    rest ∈ afterRuns isPart text ↔ ∃ w, w ≠ [] ∧ (∀ c ∈ w, isPart c = true) ∧ text = w ++ rest := by
  induction text with
  | nil =>
    constructor
    · intro h
      cases h
    · rintro ⟨w, hne, -, hw⟩
      exact absurd (List.append_eq_nil_iff.mp hw.symm).1 hne
  | cons d more ih =>
    unfold afterRuns
    constructor
    · intro h
      split at h
      · next hd =>
        rcases List.mem_append.mp h with h | h
        · obtain ⟨w, -, hw, rfl⟩ := ih.mp h
          exact ⟨d :: w, List.cons_ne_nil d w, List.forall_mem_cons.mpr ⟨hd, hw⟩, rfl⟩
        · rw [List.mem_singleton.mp h]
          exact ⟨[d], List.cons_ne_nil d [], List.forall_mem_singleton.mpr hd, rfl⟩
      · cases h
    · rintro ⟨w, hne, hw, heq⟩
      cases w with
      | nil => contradiction
      | cons c v =>
        obtain ⟨rfl, rfl⟩ := List.cons.inj heq
        obtain ⟨hc, hv⟩ := List.forall_mem_cons.mp hw
        rw [if_pos hc]
        apply List.mem_append.mpr
        cases v with
        | nil => exact .inr (List.mem_singleton_self _)
        | cons b u => exact .inl (ih.mpr ⟨b :: u, List.cons_ne_nil b u, hv, rfl⟩)

/-- The ways to match are the words of the language at the start of the text. -/
theorem mem_rests {p : Pattern} {text rest : Text} :
    rest ∈ p.rests text ↔ ∃ w, p.Matches w ∧ text = w ++ rest := by
  induction p generalizing text rest with
  | one isPart =>
    constructor
    · intro h
      cases text with
      | nil => cases h
      | cons c more =>
        unfold rests at h
        split at h
        · next hc =>
          rw [List.mem_singleton.mp h]
          exact ⟨[c], .one hc, rfl⟩
        · cases h
    · rintro ⟨w, hw, rfl⟩
      cases hw with
      | one hc => simp [rests, hc]
  | run isPart =>
    rw [rests, mem_afterRuns]
    constructor
    · rintro ⟨w, hne, hw, rfl⟩
      exact ⟨w, .run hne hw, rfl⟩
    · rintro ⟨w, hw, rfl⟩
      cases hw with
      | run hne hw => exact ⟨w, hne, hw, rfl⟩
  | sequence p q hp hq =>
    rw [rests, List.mem_flatMap]
    constructor
    · rintro ⟨middle, hm, hr⟩
      obtain ⟨v, hv, rfl⟩ := hp.mp hm
      obtain ⟨w, hw, rfl⟩ := hq.mp hr
      exact ⟨v ++ w, .sequence hv hw, (List.append_assoc v w rest).symm⟩
    · rintro ⟨w, hw, rfl⟩
      cases hw with
      | @sequence _ _ v w hv hw =>
        exact ⟨w ++ rest, hp.mpr ⟨v, hv, List.append_assoc v w rest⟩, hq.mpr ⟨w, hw, rfl⟩⟩
  | choice p q hp hq =>
    rw [rests, List.mem_append, hp, hq]
    constructor
    · rintro (⟨w, hw, rfl⟩ | ⟨w, hw, rfl⟩)
      · exact ⟨w, .left hw, rfl⟩
      · exact ⟨w, .right hw, rfl⟩
    · rintro ⟨w, hw, rfl⟩
      cases hw with
      | left hw => exact .inl ⟨w, hw, rfl⟩
      | right hw => exact .inr ⟨w, hw, rfl⟩
  | optional p hp =>
    rw [rests, List.mem_append, hp, List.mem_singleton]
    constructor
    · rintro (⟨w, hw, rfl⟩ | rfl)
      · exact ⟨w, .present hw, rfl⟩
      · exact ⟨[], .missing, rfl⟩
    · rintro ⟨w, hw, rfl⟩
      cases hw with
      | present hw => exact .inl ⟨w, hw, rfl⟩
      | missing => exact .inr rfl

/-- The pattern matches all of a text, or all but a line end at its end. -/
def MatchesLine (p : Pattern) (text : Text) : Prop :=
  ∃ rest ∈ p.rests text, rest = [] ∨ rest = ['\n']

theorem matchesLine_iff {p : Pattern} {text : Text} (h : text.getLast? ≠ some '\n') :
    p.MatchesLine text ↔ p.Matches text := by
  constructor
  · rintro ⟨rest, hr, hend⟩
    obtain ⟨w, hw, rfl⟩ := mem_rests.mp hr
    rcases hend with rfl | rfl
    · rw [List.append_nil]
      exact hw
    · exact absurd List.getLast?_concat h
  · intro hw
    exact ⟨[], mem_rests.mpr ⟨text, hw, (List.append_nil text).symm⟩, .inl rfl⟩

/-! ## From the longest to the shortest -/

/-- The ways to match are tried from the longest to the shortest. -/
def Falling (p : Pattern) : Prop :=
  ∀ text, (p.rests text).Pairwise fun a b => a.length < b.length

/-- A match of a pattern that falls is taken exactly if it is the longest. -/
theorem Falling.first?_eq_some {p : Pattern} (hp : p.Falling) {text rest : Text} :
    p.first? text = some rest ↔ ∃ w, p.Matches w ∧ text = w ++ rest ∧
      ∀ v, p.Matches v → v <+: text → v.length ≤ w.length := by
  unfold first?
  constructor
  · intro h
    obtain ⟨more, hm⟩ := List.head?_eq_some_iff.mp h
    obtain ⟨w, hw, htext⟩ := mem_rests.mp (hm ▸ List.mem_cons_self : rest ∈ p.rests text)
    refine ⟨w, hw, htext, ?_⟩
    rintro v hv ⟨other, ho⟩
    have hmem : other ∈ p.rests text := mem_rests.mpr ⟨v, hv, ho.symm⟩
    have hle : rest.length ≤ other.length := by
      rw [hm] at hmem
      rcases List.mem_cons.mp hmem with rfl | hmem
      · exact Nat.le_refl _
      · have hf := hp text
        rw [hm] at hf
        exact Nat.le_of_lt ((List.pairwise_cons.mp hf).1 other hmem)
    have hsum := congrArg List.length (ho.trans htext)
    rw [List.length_append, List.length_append] at hsum
    omega
  · rintro ⟨w, hw, rfl, hmax⟩
    have hmem : rest ∈ p.rests (w ++ rest) := mem_rests.mpr ⟨w, hw, rfl⟩
    cases hr : p.rests (w ++ rest) with
    | nil =>
      rw [hr] at hmem
      cases hmem
    | cons other more =>
      rw [List.head?_cons, Option.some.injEq]
      rw [hr] at hmem
      rcases List.mem_cons.mp hmem with rfl | hmem
      · rfl
      · -- a way tried before this one would be a longer match
        have hf := hp (w ++ rest)
        rw [hr] at hf
        have hlt := (List.pairwise_cons.mp hf).1 rest hmem
        obtain ⟨v, hv, ho⟩ := mem_rests.mp (hr ▸ List.mem_cons_self : other ∈ p.rests (w ++ rest))
        have hle := hmax v hv ⟨other, ho.symm⟩
        have hsum := congrArg List.length ho
        rw [List.length_append, List.length_append] at hsum
        omega

theorem falling_one (isPart : Char → Bool) : (one isPart).Falling := by
  intro text
  cases text with
  | nil => exact .nil
  | cons c rest =>
    unfold rests
    split
    · exact List.pairwise_singleton _ _
    · exact .nil

theorem falling_run (isPart : Char → Bool) : (run isPart).Falling := by
  intro text
  change (afterRuns isPart text).Pairwise _
  induction text with
  | nil => exact .nil
  | cons c rest ih =>
    unfold afterRuns
    split
    · refine List.pairwise_append.mpr ⟨ih, List.pairwise_singleton _ _, ?_⟩
      intro a ha b hb
      obtain ⟨w, hne, -, rfl⟩ := mem_afterRuns.mp ha
      rw [List.mem_singleton.mp hb, List.length_append]
      have hpos := List.length_pos_iff.mpr hne
      omega
    · exact .nil

/-- What may be missing is never empty when it is there. -/
theorem Falling.optional {p : Pattern} (hp : p.Falling) (hne : ∀ w, p.Matches w → w ≠ []) :
    (optional p).Falling := by
  intro text
  refine List.pairwise_append.mpr ⟨hp text, List.pairwise_singleton _ _, ?_⟩
  intro a ha b hb
  obtain ⟨w, hw, rfl⟩ := mem_rests.mp ha
  rw [List.mem_singleton.mp hb, List.length_append]
  have hpos := List.length_pos_iff.mpr (hne w hw)
  omega

/-- The first alternative is the longer one wherever both match. -/
theorem Falling.choice {p q : Pattern} (hp : p.Falling) (hq : q.Falling)
    (h : ∀ v w text, p.Matches v → q.Matches w → v <+: text → w <+: text → w.length < v.length) :
    (choice p q).Falling := by
  intro text
  refine List.pairwise_append.mpr ⟨hp text, hq text, ?_⟩
  intro a ha b hb
  obtain ⟨v, hv, htext⟩ := mem_rests.mp ha
  obtain ⟨w, hw, hother⟩ := mem_rests.mp hb
  have hlt := h v w text hv hw ⟨a, htext.symm⟩ ⟨b, hother.symm⟩
  have hsum := congrArg List.length (htext.symm.trans hother)
  rw [List.length_append, List.length_append] at hsum
  omega

/-- A character that may carry on a match of the first part starts no match of the second. -/
theorem Falling.sequence {p q : Pattern} (hp : p.Falling) (hq : q.Falling)
    (h : ∀ v c u w, p.Matches v → p.Matches (v ++ c :: u) → ¬q.Matches (c :: w)) :
    (sequence p q).Falling := by
  intro text
  change ((p.rests text).flatMap q.rests).Pairwise _
  rw [List.pairwise_flatMap]
  refine ⟨fun middle _ => hq middle, ?_⟩
  refine (hp text).imp_of_mem ?_
  intro a b ha hb hlt x hx y hy
  obtain ⟨long, hlong, htext⟩ := mem_rests.mp ha
  obtain ⟨short, hshort, rfl⟩ := mem_rests.mp hb
  obtain ⟨v, -, rfl⟩ := mem_rests.mp hx
  obtain ⟨w, hw, rfl⟩ := mem_rests.mp hy
  -- the longer match goes on after the shorter one
  obtain ⟨u, rfl⟩ : short <+: long := by
    refine List.prefix_of_prefix_length_le ⟨_, rfl⟩ ⟨v ++ x, htext.symm⟩ ?_
    have hsum := congrArg List.length htext
    simp only [List.length_append] at hsum hlt
    omega
  rw [List.append_assoc, List.append_cancel_left_eq] at htext
  cases u with
  | nil =>
    rw [htext] at hlt
    exact absurd hlt (Nat.lt_irrefl _)
  | cons c u =>
    cases w with
    | nil =>
      rw [List.nil_append] at htext
      rw [htext, List.length_append, List.length_append, List.length_cons]
      omega
    | cons d w =>
      obtain ⟨rfl, -⟩ := List.cons.inj htext
      exact absurd hw (h short d u w hshort hlong)

theorem Falling.after_one (isPart : Char → Bool) {q : Pattern} (hq : q.Falling) :
    (Pattern.sequence (.one isPart) q).Falling := by
  apply (falling_one isPart).sequence hq
  intro v c u w hv hlong
  exact absurd hlong (one_not_continued hv)

end Pattern

end Reckoner
