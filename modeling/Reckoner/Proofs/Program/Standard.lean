import Reckoner.Command.Answer
import Reckoner.Proofs.Grammar.Children
import Reckoner.Proofs.Program.Compile
import Reckoner.Proofs.Program.Locality
import Reckoner.Proofs.Run.Flow

/-! # Runs with the standard functions

Numbers, names written in the source, the standard functions and the given bindings are all that
comes up in a run with the standard functions. These functions answer with a number or complain
about their arguments, so no run ends in an error that they did not mean.
-/
namespace Reckoner

namespace Builtin
variable {η : Type}

/-- The arguments that a standard function takes. -/
def Accepts : Builtin → List (Value η) → Prop
  | .random, arguments => arguments = []
  | _, arguments => ∃ x, arguments = [.number x]

/-- How a standard function answers to arguments that it does not take. -/
inductive Refuses (arguments : List (Value η)) : Reply η → Prop
  | complains {e : ExecutionError} (hk : e.kind = .parameterError) : Refuses arguments (.error e)
  | fails {v : Value η} (hm : v ∈ arguments) (ht : v.written? = none) (message : Text) :
      Refuses arguments (.failure message)

theorem refuses_numberExpected {v : Value η} {arguments : List (Value η)} (h : v ∈ arguments) :
    Refuses arguments (Reply.numberExpected v) := by
  unfold Reply.numberExpected
  split
  · exact .complains rfl
  · next ht => exact .fails h ht _

theorem numericArguments_one (arguments : List (Value η)) :
    (∃ x, arguments = [.number x] ∧ numericArguments (some 1) arguments = .ok [x]) ∨
    (¬∃ x, arguments = [.number x]) ∧ ∃ reply : Reply η,
      numericArguments (some 1) arguments = .error reply ∧ Refuses arguments reply := by
  match arguments with
  | [] => exact .inr ⟨nofun, _, rfl, .complains rfl⟩
  | [.number x] => exact .inl ⟨x, rfl, rfl⟩
  | [.integer _] | [.text _] | [.reference _] | [.function _] =>
    exact .inr ⟨nofun, _, rfl, refuses_numberExpected List.mem_cons_self⟩
  | a :: b :: rest =>
    have hn : (1 : Int) ≠ (a :: b :: rest).length := by
      simp only [List.length_cons]
      omega
    refine .inr ⟨nofun, .error (.argumentCount 1 (a :: b :: rest).length), ?_, .complains rfl⟩
    rw [numericArguments, if_neg hn]

theorem call_reply (b : Builtin) (arguments : List (Value η)) (entropy : Entropy) :
    b.Accepts arguments ∧ (∃ x, (b.call arguments entropy).1 = .value (.number x)) ∨
    ¬b.Accepts arguments ∧ Refuses arguments (b.call arguments entropy).1 := by
  cases b with
  | random =>
    cases arguments with
    | nil => exact .inl ⟨rfl, _, rfl⟩
    | cons a rest => exact .inr ⟨nofun, .complains rfl⟩
  | sin | cos | tan | sqrt | abs =>
    rcases numericArguments_one arguments with ⟨x, ha, hx⟩ | ⟨hn, reply, hr, hrefuses⟩
    · refine .inl ⟨⟨x, ha⟩, ?_⟩
      simp only [call, hx]
      split <;> exact ⟨_, rfl⟩
    · refine .inr ⟨hn, ?_⟩
      simp only [call, hr]
      exact hrefuses

end Builtin

theorem Environment.standard_value {η : Type} {name : Text} {v : Value η}
    (h : (Environment.standard : Environment η).find? name = some v) :
    (∃ b : Builtin, v = b.value) ∨ ∃ x, v = .number x := by
  rcases List.mem_append.mp (Bindings.mem_of_find? h) with h | h
  · obtain ⟨b, -, hb⟩ := List.mem_map.mp h
    exact .inl ⟨b, (congrArg Prod.snd hb).symm⟩
  · simp only [List.mem_cons, List.not_mem_nil, or_false] at h
    rcases h with h | h <;> exact .inr ⟨_, congrArg Prod.snd h⟩

theorem Settings.environment_value {η : Type} {settings : Settings} {name : Text} {v : Value η}
    (h : (settings.environment : Environment η).find? name = some v) :
    (∃ b : Builtin, v = b.value) ∨ ∃ x, v = .number x := by
  rcases Bindings.mem_of_find?_overlay h with h | h
  · obtain ⟨entry, -, he⟩ := List.mem_map.mp h
    exact .inr ⟨entry.2, (congrArg Prod.snd he).symm⟩
  · split at h
    · exact Environment.standard_value h
    · cases h

namespace Binding
variable {η : Type}

theorem valueOf_cases (raw : Text) : (∃ x, valueOf raw = (.number x : Value η)) ∨
    (∃ name, valueOf raw = (.reference name : Value η)) ∨
    ∃ t, valueOf raw = (.text t : Value η) := by
  rw [valueOf]
  split
  · exact .inl ⟨_, rfl⟩
  · split
    · exact .inr (.inl ⟨raw, rfl⟩)
    · exact .inr (.inr ⟨raw, rfl⟩)

theorem read_value {binding name : Text} {v : Value η} (h : read binding = .ok (name, v)) :
    ∃ raw, v = valueOf raw := by
  simp only [read] at h
  split at h
  · split at h
    · exact ⟨_, congrArg Prod.snd (Except.ok.inj h).symm⟩
    · cases h
  · cases h

end Binding

theorem Command.exists_raw {η : Type} {bindings : List Text} {entries : List (Text × Value η)}
    (h : readBindings bindings = .ok entries) {entry : Text × Value η} (he : entry ∈ entries) :
    ∃ raw, entry.2 = Binding.valueOf raw := by
  induction bindings generalizing entries with
  | nil =>
    cases h
    cases he
  | cons text rest ih =>
    rw [readBindings] at h
    split at h
    · cases h
    · next first hf =>
      split at h
      · cases h
      · next others ho =>
        cases h
        rcases List.mem_cons.mp he with rfl | he
        · exact Binding.read_value hf
        · exact ih ho he

/-- What comes up in a run with the standard functions: numbers, names that are written, the
functions, and given values. -/
inductive Value.Known (tokens : List Token) (entries : List (Text × Value Empty)) :
    Value Empty → Prop
  | number (x : Float) : Known tokens entries (.number x)
  | written {t : Token} (h : t ∈ tokens) (hk : t.kind = .name) :
      Known tokens entries (.reference t.text)
  | builtin (b : Builtin) : Known tokens entries b.value
  | given {entry : Text × Value Empty} (h : entry ∈ entries) : Known tokens entries entry.2

namespace Value
variable {tokens : List Token} {entries : List (Text × Value Empty)} {bindings : List Text}

section Given
variable (h : Command.readBindings bindings = .ok entries)
include h

theorem Known.function {f : Function Empty} (hf : Known tokens entries (.function f)) :
    ∃ b : Builtin, f = ⟨b.name.toList, .builtin b⟩ := by
  generalize hv : Value.function f = v at hf
  cases hf with
  | number | written => cases hv
  | builtin b => exact ⟨b, Value.function.inj hv⟩
  | given hm =>
    obtain ⟨raw, hr⟩ := Command.exists_raw h hm
    rw [hr] at hv
    rcases Binding.valueOf_cases raw with ⟨_, hc⟩ | ⟨_, hc⟩ | ⟨_, hc⟩ <;> cases hv.trans hc

theorem Known.grounded {v : Value Empty} (hv : Known tokens entries v)
    (hr : v.isReference = false) : (∃ x, v = .number x) ∨
      (∃ name t, (name, .text t) ∈ entries ∧ v = .text t) ∨ ∃ b : Builtin, v = b.value := by
  cases hv with
  | number x => exact .inl ⟨x, rfl⟩
  | written => cases hr
  | builtin b => exact .inr (.inr ⟨b, rfl⟩)
  | @given entry hm =>
    obtain ⟨name, v⟩ := entry
    obtain ⟨raw, hv⟩ := Command.exists_raw h hm
    change v = _ at hv
    rcases Binding.valueOf_cases (η := Empty) raw with ⟨x, hc⟩ | ⟨other, hc⟩ | ⟨t, hc⟩
    · exact .inl ⟨x, hv.trans hc⟩
    · rw [hv.trans hc] at hr
      cases hr
    · obtain rfl := hv.trans hc
      exact .inr (.inl ⟨name, t, hm, rfl⟩)

theorem Known.shown {v : Value Empty} (hv : Known tokens entries v) : v.written? ≠ none := by
  cases hv with
  | number | written | builtin => exact nofun
  | given hm =>
    obtain ⟨raw, hr⟩ := Command.exists_raw h hm
    rw [hr]
    rcases Binding.valueOf_cases (η := Empty) raw with ⟨_, hc⟩ | ⟨_, hc⟩ | ⟨_, hc⟩ <;>
      rw [hc] <;> exact nofun

/-- The standard functions do not lead out of these values. -/
theorem Known.closed (settings : Settings) :
    Closed Builtin.calls (Command.environment settings entries) (Known tokens entries) where
  number := .number
  bound hb := by
    rcases Bindings.mem_of_find?_overlay hb with hm | hb
    · exact .given hm
    · rcases Settings.environment_value hb with ⟨b, rfl⟩ | ⟨x, rfl⟩
      · exact .builtin b
      · exact .number x
  reply hf _ hr := by
    obtain ⟨b, rfl⟩ := Known.function h hf
    rcases b.call_reply _ _ with ⟨-, x, hx⟩ | ⟨-, hrefuses⟩
    · cases hx.symm.trans hr
      exact .number x
    · change (b.call _ _).1 = _ at hr
      rw [hr] at hrefuses
      cases hrefuses

end Given

section NoReferences
variable (h : ∀ entry ∈ entries, entry.2.isReference = false) {name : Text}
include h

theorem Known.reference (hk : Known tokens entries (.reference name)) :
    ∃ t ∈ tokens, t.kind = .name ∧ name = t.text := by
  generalize hv : Value.reference name = v at hk
  cases hk with
  | number | builtin => cases hv
  | written ht hk => exact ⟨_, ht, hk, Value.reference.inj hv⟩
  | given hm =>
    have hr := h _ hm
    rw [← hv] at hr
    cases hr

theorem find?_ne_reference (settings : Settings) (other : Text) :
    (Command.environment settings entries).find? other ≠ some (.reference name) := by
  intro hf
  rcases Bindings.mem_of_find?_overlay hf with hm | hb
  · cases h _ hm
  · rcases Settings.environment_value hb with ⟨b, hv⟩ | ⟨x, hv⟩ <;> cases hv

end NoReferences

end Value

namespace Program
open Value (Known)

theorem holds_known {limits : Limits} {source : Source} {program : Program Empty}
    (h : compile limits source = .ok program) (entries : List (Text × Value Empty)) :
    program.root.Holds (Known (Token.scan program.source).tokens entries) := by
  obtain ⟨d, hd, -, hp⟩ := compile_eq_ok_iff.mp (compile_source h)
  have hs : (Token.scan program.source).tokens = d.yield :=
    congrArg Token.Scan.tokens (Token.covers_iff.mp hd)
  have hr : program.root = d.tree := congrArg Program.root hp
  intro v span hm
  rw [hr] at hm
  obtain ⟨level, e, he, -, hi⟩ := d.hasPart hm
  obtain ⟨t, ht, ho, rfl⟩ := e.exists_operand he
  rw [hs, Token.value]
  split
  · exact .number _
  · next hk =>
    refine .written (hi.subset ht) ?_
    simpa [Token.isOperand, hk] using ho

section Runs
variable {limits running : Limits} {source : Source} {program : Program Empty}
  {settings : Settings} {bindings : List Text} {entries : List (Text × Value Empty)}

/-- Where the values, calls and errors of a run with the standard functions come from. -/
theorem flows_standard (hc : compile limits source = .ok program)
    (hb : Command.readBindings bindings = .ok entries) (settings : Settings) (running : Limits)
    (seed : Entropy) : Run.Flows Builtin.calls (Command.environment settings entries)
      (Known (Token.scan program.source).tokens entries)
      (Value.Grounded (Known (Token.scan program.source).tokens entries))
      (program.root.ground Builtin.calls (Command.environment settings entries) running seed) :=
  program.root.ground_carries (Known.closed hb settings) (holds_known hc entries) seed

theorem value_standard (hc : compile limits source = .ok program)
    (hb : Command.readBindings bindings = .ok entries) {seed : Entropy} {v : Value Empty}
    (hv : (program.execute Builtin.calls (Command.environment settings entries) running
      seed).result = .ok v) :
    v.Grounded (Known (Token.scan program.source).tokens entries) := by
  simp only [execute] at hv
  cases hr : (program.root.ground Builtin.calls (Command.environment settings entries) running
      seed).result with
  | error stop =>
    rw [hr] at hv
    cases hv
  | ok w =>
    rw [hr] at hv
    cases hv
    exact (flows_standard hc hb settings running seed).value v hr

/-- A failure is an error of evaluation itself, or a complaint about the arguments of the last
call. -/
theorem error_standard (hc : compile limits source = .ok program)
    (hb : Command.readBindings bindings = .ok entries) {seed : Entropy} {failure : Failure}
    (hf : (program.execute Builtin.calls (Command.environment settings entries) running
      seed).result = .error failure) :
    ∃ e, failure = .error e ∧
      ((∃ stop : Stop, stop.toFailure = .error e ∧ stop.Own (Command.environment settings entries)
        (Known (Token.scan program.source).tokens entries)) ∨
      e.kind = .parameterError ∧ (∀ f shown, e ≠ .notAValue f shown) ∧
        ∃ before b arguments state, (program.execute Builtin.calls
          (Command.environment settings entries) running seed).events =
            before ++ [.called ⟨b.name.toList, .builtin b⟩ arguments] ∧
          (b.call arguments state).1 = .error e ∧ ¬b.Accepts arguments) := by
  have hflows := flows_standard hc hb settings running seed
  simp only [execute] at hf ⊢
  cases hr : (program.root.ground Builtin.calls (Command.environment settings entries) running
      seed).result with
  | ok v =>
    rw [hr] at hf
    cases hf
  | error stop =>
    rw [hr] at hf
    cases hf
    rcases hflows.error stop hr with ho | ⟨before, f, arguments, state, hs, hstop⟩
    · rcases ho.about with ⟨-, v, hv, ht⟩ | ⟨e, he, -⟩
      · exact absurd ht (hv.shown hb)
      · exact ⟨e, he, .inl ⟨stop, he, ho⟩⟩
    · have hm : Event.called f arguments ∈ before ++ [.called f arguments] := by simp
      obtain ⟨hknown, harguments⟩ := hflows.called f arguments (hs ▸ hm)
      obtain ⟨b, rfl⟩ := Known.function hb hknown
      change (b.call arguments state).1.stop? _ = _ at hstop
      rcases b.call_reply arguments state with ⟨-, x, hx⟩ | ⟨hn, hrefuses⟩
      · rw [hx] at hstop
        cases hstop
      · generalize hreply : (b.call arguments state).1 = reply at hstop hrefuses
        cases hrefuses with
        | @complains e hk =>
          cases hstop
          refine ⟨e, rfl, .inr ⟨hk, ?_, before, b, arguments, state, hs, hreply, hn⟩⟩
          rintro g shown rfl
          cases hk
        | fails hv ht => exact absurd ht ((harguments _ hv).2.shown hb)

/-- With the standard functions a run ends in a value, or in an error that is of a kind of its own.
A value is a number, a text that is bound, or a standard function. Only a call with other arguments
than those a function takes is a parameter error, and without references among the bindings only a
name that is written in the source can be unknown, and none is cyclic. -/
theorem execute_standard_safe (hc : compile limits source = .ok program)
    (hb : Command.readBindings bindings = .ok entries) (settings : Settings) (running : Limits)
    (seed : Entropy) :
    let outcome := program.execute Builtin.calls (Command.environment settings entries) running seed
    (∀ v, outcome.result = .ok v → (∃ x, v = .number x) ∨
      (∃ name t, (name, .text t) ∈ entries ∧ v = .text t) ∨ ∃ b : Builtin, v = b.value) ∧
    (∀ failure, outcome.result = .error failure → ∃ e, failure = .error e ∧
      e.kind ≠ .unknownError ∧ (∀ f shown, e ≠ .notAValue f shown) ∧
      (e.kind = .parameterError → ∃ before b arguments state,
        outcome.events = before ++ [.called ⟨b.name.toList, .builtin b⟩ arguments] ∧
          (b.call arguments state).1 = .error e ∧ ¬b.Accepts arguments)) ∧
    ((∀ entry ∈ entries, entry.2.isReference = false) → ∀ e, outcome.result = .error (.error e) →
      e.kind ≠ .cyclicReference ∧ (e.kind = .unknownVariable →
        ∃ t ∈ (Token.scan program.source).tokens, t.kind = .name ∧
          e = .unknownVariable t.text)) := by
  intro outcome
  refine ⟨fun v hv => ?_, fun failure hf => ?_, fun hn e he => ?_⟩
  · obtain ⟨hg, hk⟩ := value_standard hc hb hv
    exact hk.grounded hb hg
  · obtain ⟨e, rfl, hcase⟩ := error_standard hc hb hf
    refine ⟨e, rfl, ?_⟩
    rcases hcase with ⟨stop, hs, ho⟩ | ⟨hk, hv, hcall⟩
    · rcases ho.about with ⟨rfl, -⟩ | ⟨e', he', hkind⟩
      · cases hs
      · cases hs.symm.trans he'
        rcases hkind with hk | ⟨hk, hv⟩ | ⟨name, rfl, -⟩ | ⟨name, other, rfl, -⟩
        · exact ⟨by simp [hk], fun f shown h => by simp [h, ExecutionError.kind] at hk,
            by simp [hk]⟩
        · exact ⟨by simp [hk], hv, by simp [hk]⟩
        · exact ⟨nofun, nofun, nofun⟩
        · exact ⟨nofun, nofun, nofun⟩
    · exact ⟨by simp [hk], hv, fun _ => hcall⟩
  · obtain ⟨e', he', hcase⟩ := error_standard hc hb he
    cases he'
    rcases hcase with ⟨stop, hs, ho⟩ | ⟨hk, -⟩
    · rcases ho.about with ⟨rfl, -⟩ | ⟨e', he', hkind⟩
      · cases hs
      · cases hs.symm.trans he'
        rcases hkind with hk | ⟨hk, -⟩ | ⟨name, rfl, -, hw⟩ | ⟨name, other, rfl, hf⟩
        · exact ⟨by simp [hk], by simp [hk]⟩
        · exact ⟨by simp [hk], by simp [hk]⟩
        · obtain ⟨t, ht, hkind, rfl⟩ := Known.reference hn hw
          exact ⟨nofun, fun _ => ⟨t, ht, hkind, rfl⟩⟩
        · exact absurd hf (Value.find?_ne_reference hn settings other)
    · exact ⟨by simp [hk], by simp [hk]⟩

/-- The sine of a text: the complaint comes from the call, and so that function does not take it. -/
theorem execute_standard_safe_text :
    let program : Program Empty := ⟨"f(x)".toList, .call (.value (.reference ['f']) (some ⟨0, 1⟩))
      [.value (.reference ['x']) (some ⟨2, 3⟩)] (some ⟨0, 4⟩)⟩
    let entries : List (Text × Value Empty) :=
      [(['f'], .reference "sin".toList), (['x'], .text "a b".toList)]
    let outcome := program.execute Builtin.calls (Command.environment .default entries)
      (.ofNesting 1) ⟨0⟩
    compile (.ofNesting 1) (.ofText "f(x)".toList) = .ok program ∧
    Command.readBindings ["f = sin".toList, "x=a b".toList] = .ok entries ∧
    outcome.result = .error (.error (.numberExpected "\"a b\"".toList)) ∧
    ∃ before b arguments,
      outcome.events = before ++ [.called ⟨b.name.toList, .builtin b⟩ arguments] ∧
      ¬b.Accepts arguments := by
  intro program entries outcome
  have hc : compile (.ofNesting 1) (.ofText "f(x)".toList) = .ok program := rfl
  have hb : Command.readBindings ["f = sin".toList, "x=a b".toList] = .ok entries := rfl
  have he : outcome.result = .error (.error (.numberExpected "\"a b\"".toList)) := rfl
  obtain ⟨e, heq, -, -, hp⟩ := (execute_standard_safe hc hb .default (.ofNesting 1) ⟨0⟩).2.1 _ he
  cases heq
  obtain ⟨before, b, arguments, state, hs, -, hn⟩ := hp rfl
  exact ⟨hc, hb, he, before, b, arguments, hs, hn⟩

end Runs

end Program

end Reckoner
