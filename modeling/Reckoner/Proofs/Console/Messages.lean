import Reckoner.Proofs.Console.Escape

/-! # Messages

A message marks its first part and escapes what it tells. Its own two tags match and have readable
styles, and no others are left, so every message is shown, and its unescaped start as it is written.
-/
namespace Reckoner.Markup

/-- A character that has no part in tags, escapes and names of emoji. -/
def IsInert (c : Char) : Prop := c ≠ '\\' ∧ c ≠ '[' ∧ c ≠ ':'

instance (c : Char) : Decidable (IsInert c) := inferInstanceAs (Decidable (_ ∧ _))

theorem showParts_plain {opened : List Tag} {front more : List Part}
    (hf : ∀ part ∈ front, part.IsPlain) {shown : Text} (h : showParts opened more = .ok shown) :
    ∃ all, showParts opened (front ++ more) = .ok all := by
  induction front with
  | nil => exact ⟨shown, h⟩
  | cons part front ih =>
    obtain ⟨⟨text, rfl⟩, hfront⟩ := List.forall_mem_cons.mp hf
    obtain ⟨all, ha⟩ := ih hfront
    exact ⟨shownPlain text ++ all, by rw [List.cons_append, showParts, ha]; rfl⟩

theorem contract_append {w : Text} (hw : ∀ c ∈ w, c ≠ '\\') (rest : Text) :
    Text.contract '\\' '[' '[' (w ++ rest) = w ++ Text.contract '\\' '[' '[' rest := by
  induction w with
  | nil => rfl
  | cons c w ih =>
    obtain ⟨hc, hw⟩ := List.forall_mem_cons.mp hw
    rw [List.cons_append, List.cons_append, ← ih hw]
    cases w ++ rest with
    | nil => rfl
    | cons d more => rw [Text.contract, if_neg (by simp [hc])]

theorem shownPlain_append {w : Text} (hw : ∀ c ∈ w, IsInert c) (rest : Text) :
    shownPlain (w ++ rest) = w ++ shownPlain rest := by
  have hs : ∀ c ∈ w, (c == ':') = false := fun c hc => beq_false_of_ne (hw c hc).2.2
  rw [shownPlain, contract_append fun c hc => (hw c hc).1, shownPlain, Emoji.replace, Emoji.replace]
  cases hp : Text.splitAt (· == ':') (Text.contract '\\' '[' '[' rest) with
  | nil => exact absurd hp (Text.splitAt_ne_nil _ _)
  | cons piece pieces =>
    rw [Text.splitAt_append hs hp]
    exact List.append_assoc _ _ _

theorem escape_eq (text : Text) : ∃ ending, (ending = [] ∨ ending = ['\\']) ∧
    escape text = escapeFrom text.length text ++ ending := by
  unfold escape
  dsimp only
  split
  · exact ⟨_, .inr rfl, rfl⟩
  · exact ⟨[], .inl rfl, (List.append_nil _).symm⟩

/-- What follows the part of a message that its first tag marks. -/
theorem safe_closing {ending : Text} (he : ending = [] ∨ ending = ['\\']) (rest : Text) :
    Safe (ending ++ ":[/red] ".toList ++ rest) := by
  rcases he with rfl | rfl
  · exact ⟨by rintro c ⟨⟩; rfl, rfl, .inr ⟨by decide, .inl rfl⟩⟩
  · exact ⟨by rintro c ⟨⟩; rfl, rfl, .inr ⟨by decide, .inr ⟨by decide, .inl rfl⟩⟩⟩

theorem safe_ending {ending : Text} (he : ending = [] ∨ ending = ['\\']) : Safe ending := by
  rcases he with rfl | rfl
  · exact ⟨nofun, rfl, trivial⟩
  · exact ⟨by rintro c ⟨⟩; rfl, rfl, .inr ⟨by decide, trivial⟩⟩

theorem tagAt?_red (rest : Text) :
    tagAt? ("[red]".toList ++ rest) = some (0, "red".toList, rest) := rfl

theorem tagAt?_closing (rest : Text) :
    tagAt? ("[/red]".toList ++ rest) = some (0, "/red".toList, rest) := rfl

theorem isPlain_escape (before text : Text) :
    ∀ part ∈ partsAfter before (escape text), part.IsPlain := by
  obtain ⟨ending, he, htext⟩ := escape_eq text
  obtain ⟨front, last, hf, hp⟩ := exists_plain (safe_ending he) (Nat.le_refl text.length) before
  have hlast : ∀ part ∈ partsAfter last ending, part.IsPlain := by
    rcases he with rfl | rfl
    · rw [partsAfter_nil, List.forall_mem_singleton]
      exact ⟨_, rfl⟩
    · rw [partsAfter_other rfl, partsAfter_nil, List.forall_mem_singleton]
      exact ⟨_, rfl⟩
  rw [htext, hp]
  exact List.forall_mem_append.mpr ⟨hf, hlast⟩

theorem exists_closing {ending : Text} (he : ending = [] ∨ ending = ['\\'])
    (before report : Text) : ∃ front more, (∀ part ∈ front, part.IsPlain) ∧
      (∀ part ∈ more, part.IsPlain) ∧
        partsAfter before (ending ++ ":[/red] ".toList ++ escape report) =
          front ++ .tag ⟨"/red".toList, []⟩ :: more := by
  have hclosing (before : Text) :
      partsAfter before (':' :: ("[/red]".toList ++ ' ' :: escape report)) =
        [.plain (before.reverse ++ [':']), .plain []] ++ .tag ⟨"/red".toList, []⟩ ::
          partsAfter [] (' ' :: escape report) := by
    rw [partsAfter_other (tagAt?_other (by decide) (by decide) _),
      partsAfter_tag (tagAt?_closing _), List.reverse_cons]
    rfl
  have hlast : ∃ last, partsAfter before (ending ++ ":[/red] ".toList ++ escape report) =
      partsAfter last (':' :: ("[/red]".toList ++ ' ' :: escape report)) := by
    rcases he with rfl | rfl
    · exact ⟨before, rfl⟩
    · have hn : tagAt? ('\\' :: ':' :: ("[/red]".toList ++ ' ' :: escape report)) = none := rfl
      exact ⟨'\\' :: before, partsAfter_other hn before⟩
  obtain ⟨last, hlast⟩ := hlast
  refine ⟨_, _, ?_, ?_, hlast.trans (hclosing last)⟩
  · simp only [List.forall_mem_cons]
    exact ⟨⟨_, rfl⟩, ⟨_, rfl⟩, List.forall_mem_nil _⟩
  · rw [partsAfter_other (tagAt?_other (by decide) (by decide) _)]
    exact isPlain_escape _ report

theorem Part.IsPlain.readable {part : Part} (h : part.IsPlain) : isUnreadable part = false := by
  obtain ⟨text, rfl⟩ := h
  rfl

theorem render_eq_ok {text shown : Text} (h : showParts [] (parts text) = .ok shown)
    (hu : ∀ part ∈ parts text, isUnreadable part = false) : render text = .ok shown := by
  have hany : (parts text).any isUnreadable = false := by
    rw [List.any_eq_false]
    intro part hp
    rw [hu part hp]
    exact Bool.false_ne_true
  rw [render, h, hany]
  rfl

theorem pass_red : pass [] ⟨"red".toList, []⟩ = .ok [⟨"red".toList, []⟩] := by decide

theorem isUnreadable_red : isUnreadable (.tag ⟨"red".toList, []⟩) = false := by decide +kernel

theorem isUnreadable_closing : isUnreadable (.tag ⟨"/red".toList, []⟩) = false := by decide +kernel

theorem pass_closing : pass [⟨"red".toList, []⟩] ⟨"/red".toList, []⟩ = .ok [] := by decide

/-- A message whose first part is marked. -/
def message (head middle report : Text) : Text :=
  "[red]".toList ++ (head ++ (escape middle ++ (":[/red] ".toList ++ escape report)))

/-- The parts of a message: only its own two tags are no plain text. -/
theorem exists_parts {head : Text} (hh : ∀ c ∈ head, IsInert c) (middle report : Text) :
    ∃ w others front more, parts (message head middle report) =
        [.plain [], .plain []] ++ .tag ⟨"red".toList, []⟩ ::
          (front ++ .tag ⟨"/red".toList, []⟩ :: more) ∧
      front ++ .tag ⟨"/red".toList, []⟩ :: more = .plain (head ++ w) :: others ∧
      (∀ part ∈ front, part.IsPlain) ∧ ∀ part ∈ more, part.IsPlain := by
  obtain ⟨ending, he, hm⟩ := escape_eq middle
  obtain ⟨front, last, hf, hp⟩ :=
    exists_plain (safe_closing he (escape report)) (Nat.le_refl middle.length) head.reverse
  obtain ⟨between, more, hb, hmore, hc⟩ := exists_closing he last report
  obtain ⟨w, others, hw⟩ := exists_start head.reverse (escapeFrom middle.length middle ++
    (ending ++ ":[/red] ".toList ++ escape report))
  rw [hc] at hp
  rw [hp, ← List.append_assoc, List.reverse_reverse] at hw
  refine ⟨w, others, front ++ between, more, ?_, hw, List.forall_mem_append.mpr ⟨hf, hb⟩, hmore⟩
  have htext : message head middle report = "[red]".toList ++ (head ++
      (escapeFrom middle.length middle ++ (ending ++ ":[/red] ".toList ++ escape report))) := by
    have hall : escape middle ++ (":[/red] ".toList ++ escape report) =
        escapeFrom middle.length middle ++ (ending ++ ":[/red] ".toList ++ escape report) :=
      (congrArg (· ++ _) hm).trans (by rw [List.append_assoc, ← List.append_assoc ending])
    exact congrArg (fun text => "[red]".toList ++ (head ++ text)) hall
  rw [List.append_assoc front, ← hp, htext]
  refine (partsAfter_tag (tagAt?_red _) []).trans ?_
  rw [partsAfter_run fun c hc => ⟨(hh c hc).1, (hh c hc).2.1⟩, List.append_nil]
  rfl

/-- A message with nothing but its own tags unescaped is shown, and starts as it is written. -/
theorem render_message {head : Text} (hh : ∀ c ∈ head, IsInert c) (middle report : Text) :
    ∃ rest, render (message head middle report) = .ok (head ++ rest) := by
  obtain ⟨w, others, front, more, hparts, hstart, hf, hmore⟩ :=
    exists_parts hh middle report
  -- the two tags match
  obtain ⟨rest, hrest⟩ := showParts_plain hmore (show showParts [] [] = .ok [] from rfl)
  rw [List.append_nil] at hrest
  have htag : showParts [⟨"red".toList, []⟩] (.tag ⟨"/red".toList, []⟩ :: more) = .ok rest := by
    rw [showParts, pass_closing]
    exact hrest
  obtain ⟨all, hall⟩ := showParts_plain hf htag
  have hshown : showParts [] (parts (message head middle report)) = .ok all := by
    rw [hparts, List.cons_append, List.cons_append, List.nil_append, showParts, showParts,
      showParts, pass_red]
    change ((showParts [⟨"red".toList, []⟩] _).map _).map _ = _
    rw [hall]
    rfl
  have hu : ∀ part ∈ parts (message head middle report), isUnreadable part = false := by
    rw [hparts]
    simp only [List.forall_mem_append, List.forall_mem_cons]
    exact ⟨⟨rfl, rfl, List.forall_mem_nil _⟩, isUnreadable_red,
      fun part hp => (hf part hp).readable, isUnreadable_closing,
      fun part hp => (hmore part hp).readable⟩
  rw [hstart, showParts] at hall
  obtain ⟨s, rfl⟩ : ∃ s, shownPlain (head ++ w) ++ s = all := by
    cases hs : showParts [⟨"red".toList, []⟩] others with
    | error fault =>
      rw [hs] at hall
      cases hall
    | ok s =>
      rw [hs] at hall
      exact ⟨s, Except.ok.inj hall⟩
  rw [shownPlain_append hh, List.append_assoc] at hshown
  exact ⟨_, render_eq_ok hshown hu⟩

end Reckoner.Markup
