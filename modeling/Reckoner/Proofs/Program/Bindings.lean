import Reckoner.Binding
import Reckoner.Evaluation
import Reckoner.Proofs.Environment.Chains
import Reckoner.Proofs.Number.Words
import Reckoner.Proofs.Program.Literals
import Reckoner.Proofs.Run.Sequence

/-! # Bindings and the language

A binding given as text has a name exactly if the grammar reads one there, so an expression can
always refer to it. A number bound to a name counts as it would in the expression, and so does
another name, unless it is one of the words that are numbers.
-/
namespace Reckoner
open Token (Alone)
variable {σ η : Type}

/-- Trimming takes a line end at the end away, so the pattern of names ends where the text does. -/
theorem Token.trimmed_name_iff (text : Text) :
    Pattern.name.MatchesLine (Text.trim Blank.isSpace text) ↔
      Alone .name (Text.trim Blank.isSpace text) := by
  have hlast : (Text.trim Blank.isSpace text).getLast? ≠ some '\n' := by
    intro h
    exact absurd ((Text.trim_core Blank.isSpace text).last '\n' h) (by decide)
  rw [Pattern.matchesLine_iff hlast, matches_name, alone_iff]
  rfl

namespace Binding

/-- What a text is bound as: a number if it is one, a reference if it is a name, or itself. -/
inductive Denotes (raw : Text) : Value η → Prop
  | number {x : Float} (hx : Decimal.readLoose? raw = some x) : Denotes raw (.number x)
  | reference (hx : Decimal.readLoose? raw = none) (hr : Alone .name raw) :
      Denotes raw (.reference raw)
  | text (hx : Decimal.readLoose? raw = none) (hr : ¬Alone .name raw) : Denotes raw (.text raw)

theorem denotes_valueOf (raw : Text) : Denotes raw (valueOf raw : Value η) := by
  unfold valueOf
  split
  · next x hx => exact .number hx
  · next hx =>
    split
    · next hr => exact .reference hx (Token.alone_iff.mpr hr)
    · next hr => exact .text hx fun h => hr (Token.alone_iff.mp h)

theorem read_without {binding : Text} (h : '=' ∉ binding) :
    (read binding : Except Fault (Text × Value η)) = .error (.notABinding binding) := by
  have hdrop : binding.dropWhile (· != '=') = [] := by
    apply List.dropWhile_eq_nil_iff.mpr
    intro c hc
    rw [bne_iff_ne]
    rintro rfl
    exact h hc
  simp only [read, hdrop]

theorem read_eq {before rest : Text} (h : '=' ∉ before) :
    (read (before ++ '=' :: rest) : Except Fault (Text × Value η)) =
      if Text.isName (Text.trim Blank.isSpace before) then
        .ok (Text.trim Blank.isSpace before, valueOf (Text.trim Blank.isSpace rest))
      else .error (.notABinding (before ++ '=' :: rest)) := by
  have hall : ∀ c ∈ before, (c != '=') = true := by
    intro c hc
    rw [bne_iff_ne]
    rintro rfl
    exact h hc
  have htake : (before ++ '=' :: rest).takeWhile (· != '=') = before := by
    rw [List.takeWhile_append_of_pos hall, List.takeWhile_cons_of_neg (by decide), List.append_nil]
  have hdrop : (before ++ '=' :: rest).dropWhile (· != '=') = '=' :: rest := by
    rw [List.dropWhile_append_of_pos hall, List.dropWhile_cons_of_neg (by decide)]
  simp only [read, htake, hdrop]

theorem exists_read_iff {binding : Text} :
    (∃ entry : Text × Value η, read binding = .ok entry) ↔ ∃ before rest,
      binding = before ++ '=' :: rest ∧ '=' ∉ before ∧
        Alone .name (Text.trim Blank.isSpace before) := by
  constructor
  · rintro ⟨entry, h⟩
    by_cases hmem : '=' ∈ binding
    · obtain ⟨before, rest, rfl, hb⟩ := List.eq_append_cons_of_mem hmem
      rw [read_eq hb] at h
      split at h
      · next hn => exact ⟨before, rest, rfl, hb, Token.alone_iff.mpr hn⟩
      · cases h
    · rw [read_without hmem] at h
      cases h
  · rintro ⟨before, rest, rfl, hb, hn⟩
    exact ⟨_, (read_eq hb).trans (if_pos (Token.alone_iff.mp hn))⟩

theorem read_denotes {before rest name : Text} {v : Value η} (hb : '=' ∉ before)
    (h : read (before ++ '=' :: rest) = .ok (name, v)) :
    name = Text.trim Blank.isSpace before ∧ Text.isName name = true ∧
      Denotes (Text.trim Blank.isSpace rest) v := by
  rw [read_eq hb] at h
  split at h
  · next hn =>
    obtain ⟨rfl, rfl⟩ := Prod.mk.inj (Except.ok.inj h)
    exact ⟨rfl, hn, denotes_valueOf _⟩
  · cases h

theorem read_tokens {kind : Token.Kind} {n t : Text} (hn : Alone .name n) (ht : Alone kind t) :
    (read (n ++ '=' :: t) : Except Fault (Text × Value η)) = .ok (n, valueOf t) := by
  have hname := Token.alone_iff.mp hn
  have hb : '=' ∉ n := by
    intro hmem
    exact absurd (Text.isNamePart_of_isName hname '=' hmem) (by decide)
  have hleft : Text.trim Blank.isSpace n = n := Text.trim_eq_self hname.no_space
  have hright : Text.trim Blank.isSpace t = t := Text.trim_eq_self (Token.alone_iff.mp ht).no_space
  rw [read_eq hb, hleft, hright]
  exact if_pos hname

end Binding

namespace Program

theorem execute_value (calls : Calls σ η) (env : Environment η) (limits : Limits) (source : Text)
    (v : Value η) (span : Option Span) (s : σ) :
    (⟨source, .value v span⟩ : Program η).execute calls env limits s =
      ⟨(env.resolve v).result.mapError .error, s, (env.resolve v).looked.map .looked⟩ := by
  have hw : (Node.value v span).evaluate calls env limits 0 = (pure v : Run σ η (Value η)) := by
    unfold Node.evaluate Run.within
    exact (if_neg (Nat.not_lt_zero _)).trans (if_neg (Nat.not_lt_zero _))
  unfold execute Node.ground
  rw [hw, pure_bind]
  unfold Run.resolve
  dsimp only
  cases (env.resolve v).result with
  | error e => rfl
  | ok w => rfl

/-- A text is a binding exactly if it has an equals sign, and what is in front of the first one is a
name of the grammar between blanks, which then compiles to a reference. The rest is bound as a
number if it is read as one, as a reference if it is a name of the grammar, and as a text if it is
neither. A numeral that is bound to a name has the value it has in an expression. So has a name,
and the error is of the same kind if there is one, unless it is a word that is a number. All this is
about texts, which have no lone surrogates in them. -/
theorem bindings_agree (limits : Limits) (calls : Calls σ η) (env : Environment η) (s : σ) :
    (∀ binding : Text, (∃ entry : Text × Value η, Binding.read binding = .ok entry) ↔
      ∃ before rest, binding = before ++ '=' :: rest ∧ '=' ∉ before ∧
        Alone .name (Text.trim Blank.isSpace before)) ∧
    (∀ (before rest name : Text) (v : Value η), '=' ∉ before →
      Binding.read (before ++ '=' :: rest) = .ok (name, v) →
      name = Text.trim Blank.isSpace before ∧ Binding.Denotes (Text.trim Blank.isSpace rest) v ∧
      compile limits (.ofText name) =
        .ok (⟨name, .value (.reference name) (some ⟨0, name.length⟩)⟩ : Program η)) ∧
    (∀ text : Text, Pattern.name.MatchesLine (Text.trim Blank.isSpace text) ↔
      Alone .name (Text.trim Blank.isSpace text)) ∧
    (∀ n t : Text, Alone .name n → Alone .number t → ∃ (x : Float) (p q : Program η),
      Binding.read (n ++ '=' :: t) = .ok (n, (.number x : Value η)) ∧
      compile limits (.ofText n) = .ok p ∧ compile limits (.ofText t) = .ok q ∧
      (p.execute calls (Bindings.insert n (.number x) env) limits s).result = .ok (.number x) ∧
      (q.execute calls env limits s).result = .ok (.number x)) ∧
    (∀ n t : Text, Alone .name n → Alone .name t → Decimal.readLoose? t = none →
      ∃ p q : Program η,
        Binding.read (n ++ '=' :: t) = .ok (n, (.reference t : Value η)) ∧
        compile limits (.ofText n) = .ok p ∧ compile limits (.ofText t) = .ok q ∧
        ∃ outcome outcome' : Except ExecutionError (Value η),
          (p.execute calls (Bindings.insert n (.reference t) env) limits s).result =
            outcome.mapError .error ∧
          (q.execute calls (Bindings.insert n (.reference t) env) limits s).result =
            outcome'.mapError .error ∧
          outcome.mapError ExecutionError.kind = outcome'.mapError ExecutionError.kind) ∧
    ∀ t : Text, Alone .name t → ((∃ x, Decimal.readLoose? t = some x) ↔ Decimal.IsWord t) := by
  refine ⟨fun binding => Binding.exists_read_iff, ?_, Token.trimmed_name_iff, ?_, ?_, ?_⟩
  · intro before rest name v hb h
    obtain ⟨hname, hn, hv⟩ := Binding.read_denotes hb h
    exact ⟨hname, hv, compile_name hn⟩
  · intro n t hn ht
    have hnumeral := Token.alone_iff.mp ht
    obtain ⟨x, hx⟩ := Decimal.readLoose?_of_numeral hnumeral
    refine ⟨x, _, _, ?_, compile_name (Token.alone_iff.mp hn), compile_numeral hnumeral hx, ?_, ?_⟩
    · rw [Binding.read_tokens hn ht]
      simp only [Binding.valueOf, hx]
    · rw [execute_value]
      have hf : (Bindings.insert n (.number x) env).find? n = some (.number x) := by
        rw [Bindings.find?_insert, if_pos rfl]
      rw [(Environment.resolve_ends _ _).eq_ok_iff.mpr ⟨rfl, _, .step hf (.here _)⟩]
      rfl
    · rw [execute_value, (Environment.resolve_ends _ _).eq_ok_iff.mpr ⟨rfl, _, .here _⟩]
      rfl
  · intro n t hn ht hx
    have hname := Token.alone_iff.mp ht
    refine ⟨_, _, ?_, compile_name (Token.alone_iff.mp hn), compile_name hname, _, _,
      congrArg Outcome.result (execute_value ..), congrArg Outcome.result (execute_value ..), ?_⟩
    · rw [Binding.read_tokens hn ht]
      have hvalue : (Binding.valueOf t : Value η) = .reference t := by
        simp only [Binding.valueOf, hx]
        exact if_pos hname
      rw [hvalue]
    · apply Environment.resolve_bound
      rw [Bindings.find?_insert, if_pos rfl]
  · intro t ht
    exact Decimal.readLoose?_name_iff (Token.alone_iff.mp ht)

/-- Only the first equals sign separates. -/
example : (Binding.read "label = a=b ".toList : Except Binding.Fault (Text × Value Unit)) =
    .ok ("label".toList, .text "a=b".toList) := rfl

end Program

end Reckoner
