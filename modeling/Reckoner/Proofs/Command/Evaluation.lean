import Reckoner.Proofs.Command.Layers
import Reckoner.Proofs.Console.Messages
import Reckoner.Proofs.Program.Literals
import Reckoner.Proofs.Program.Standard

/-! # Evaluations

An evaluation loads the settings, reads the bindings, compiles and runs, and the first of these that
fails decides how the command ends. Its messages are always shown. Only a settings file that cannot
be read and a tree that cannot be logged keep the command from an answer.
-/
namespace Reckoner.Command
variable {room : Room} {files : Text → FileState} {entropy : Entropy} {arguments : List Text}
  {request : EvalRequest} {loaded : Settings.Loaded} {entries : List (Text × Value Empty)}

/-! ## Messages -/

/-- The command ends with exit code 1 and a message that starts with the kind of an error. -/
def Reports (kind : String) (ending : Ending) : Prop :=
  ∃ shown log, "Error (".toList ++ kind.toList ++ [')'] <+: shown ∧
    ending = .report ⟨1, [], shownAsIs shown, log⟩

theorem printMarkup_message {head : Text} (hh : ∀ c ∈ head, Markup.IsInert c)
    (middle report : Text) : ∃ shown, head <+: shown ∧
      printMarkup (Markup.message head middle report) = .ok (shownAsIs shown) := by
  obtain ⟨rest, hr⟩ := Markup.render_message hh middle report
  exact ⟨head ++ rest, List.prefix_append _ _, by rw [printMarkup, hr]⟩

theorem failure_reports {kind : String} (hk : ∀ c ∈ kind.toList, Markup.IsInert c)
    (log : List LogLine) (report : Text) : Reports kind (failure log (errorLine kind report)) := by
  have hh : ∀ c ∈ "Error (".toList ++ kind.toList ++ [')'], Markup.IsInert c := by
    simp only [List.forall_mem_append]
    exact ⟨⟨Text.forall_of_all (by decide), hk⟩, Text.forall_of_all (by decide)⟩
  obtain ⟨shown, hp, hs⟩ := printMarkup_message hh [] report
  refine ⟨shown, log, hp, ?_⟩
  have hall (a b c d : Text) : a ++ b ++ kind.toList ++ (c ++ d) ++ Markup.escape report =
      a ++ (b ++ kind.toList ++ c ++ ([] ++ (d ++ Markup.escape report))) := by
    simp only [List.append_assoc, List.nil_append]
  have he : errorLine kind report = .ok (shownAsIs shown) :=
    (congrArg printMarkup (hall "[red]".toList "Error (".toList [')'] ":[/red] ".toList)).trans hs
  rw [he]
  rfl

theorem parseFailure_reports (log : List LogLine) (error : ParseError) :
    Reports error.kind.name (parseFailure log error) :=
  failure_reports (by cases error.kind <;> exact Text.forall_of_all (by decide)) log _

theorem complaintMessage_eq (path : Text) (complaints : List Complaint) :
    ∃ shown, "Invalid config ".toList <+: shown ∧
      complaintMessage path complaints = .ok (shownAsIs shown) := by
  obtain ⟨shown, hp, hs⟩ :=
    @printMarkup_message "Invalid config ".toList (Text.forall_of_all (by decide)) path _
  have hall (a b c d e : Text) : a ++ b ++ c ++ d ++ e = a ++ (b ++ (c ++ (d ++ e))) := by
    simp only [List.append_assoc]
  exact ⟨shown, hp, (congrArg printMarkup
    (hall "[red]".toList "Invalid config ".toList _ ":[/red] ".toList _)).trans hs⟩

/-! ## Stages -/

abbrev ReadsAs (bindings : List Text) (entries : List (Text × Value Empty)) : Prop :=
  List.Forall₂ (fun text entry => Binding.read text = .ok entry) bindings entries

def Malformed (text : Text) : Prop :=
  ∃ fault, (Binding.read text : Except Binding.Fault (Text × Value Empty)) = .error fault

/-- How an expression ends the command when it runs in an environment: with the error of compiling
it, with that of running it, or with its value, which is printed or fails to be. -/
inductive Concludes (entropy : Entropy) (compiling running : Limits) (env : Environment Empty)
    (expression : Text) : Ending → Prop
  | refused {error : ParseError} {ending : Ending}
      (hc : (Program.compile compiling (.ofText expression) : Except Node.Fault (Program Empty)) =
        .error (.source error)) (h : Reports error.kind.name ending) :
      Concludes entropy compiling running env expression ending
  | failed {program : Program Empty} {error : ExecutionError} {ending : Ending}
      (hc : Program.compile compiling (.ofText expression) = .ok program)
      (hx : (program.execute Builtin.calls env running entropy).result = .error (.error error))
      (h : Reports error.kind.name ending) :
      Concludes entropy compiling running env expression ending
  | printed {program : Program Empty} {v : Value Empty} {output : Text}
      (hc : Program.compile compiling (.ofText expression) = .ok program)
      (hx : (program.execute Builtin.calls env running entropy).result = .ok v)
      (h : Markup.render v.written = .ok output) (log : List LogLine) :
      Concludes entropy compiling running env expression (.report ⟨0, shownAsIs output, [], log⟩)
  | unprinted {program : Program Empty} {v : Value Empty} {fault : Markup.Fault}
      (hc : Program.compile compiling (.ofText expression) = .ok program)
      (hx : (program.execute Builtin.calls env running entropy).result = .ok v)
      (h : Markup.render v.written = .error fault) :
      Concludes entropy compiling running env expression (.crash (.ofMarkup fault))

/-- How an evaluation ends the command. Settings that are not valid end it whatever the bindings and
the expression are, and a malformed binding does whatever the expression is. Otherwise the
expression is compiled and run within the depth of the settings, with its names bound in layers. -/
inductive Settles (room : Room) (files : Text → FileState) (entropy : Entropy)
    (request : EvalRequest) : Ending → Prop
  | invalid {complaints : List Complaint} {shown : Text}
      (h : configured room files request = .error (.invalid complaints))
      (hs : "Invalid config ".toList <+: shown) :
      Settles room files entropy request (.report ⟨1, [], shownAsIs shown, []⟩)
  | malformed {loaded : Settings.Loaded} {text : Text}
      (h : configured room files request = .ok loaded)
      (ht : text ∈ request.bindings) (hm : Malformed text) :
      Settles room files entropy request .usage
  | evaluated {loaded : Settings.Loaded} {entries : List (Text × Value Empty)}
      {env : Environment Empty} {ending : Ending} (h : configured room files request = .ok loaded)
      (hb : ReadsAs request.bindings entries)
      (hn : ∀ name, Layered request loaded.settings entries name (env.find? name))
      (hc : Concludes entropy (loaded.settings.limits room.compiling)
        (loaded.settings.limits room.running) env request.expression ending) :
      Settles room files entropy request ending

theorem readBindings_eq_ok {bindings : List Text} (h : ReadsAs bindings entries) :
    readBindings bindings = .ok entries := by
  induction h with
  | nil => rfl
  | cons ht _ ih => rw [readBindings, ht, ih]

theorem reads_or_malformed (bindings : List Text) :
    (∃ entries, ReadsAs bindings entries) ∨ ∃ text ∈ bindings, Malformed text ∧ ∃ fault,
      (readBindings bindings : Except Binding.Fault (List (Text × Value Empty))) =
        .error fault := by
  induction bindings with
  | nil => exact .inl ⟨[], .nil⟩
  | cons text rest ih =>
    rw [readBindings]
    cases ht : (Binding.read text : Except Binding.Fault (Text × Value Empty)) with
    | error fault => exact .inr ⟨text, List.mem_cons_self, ⟨fault, ht⟩, fault, rfl⟩
    | ok entry =>
      rcases ih with ⟨entries, hr⟩ | ⟨other, hm, hf, fault, he⟩
      · exact .inl ⟨entry :: entries, .cons ht hr⟩
      · rw [he]
        exact .inr ⟨other, List.mem_cons_of_mem _ hm, hf, fault, rfl⟩

theorem evaluate_concludes (room : Room) (entropy : Entropy) (keep : LogLine → Bool)
    (log : List LogLine) (settings : Settings) (expression : Text) {bindings : List Text}
    (hb : readBindings bindings = .ok entries) :
    Concludes entropy (settings.limits room.compiling) (settings.limits room.running)
      (environment settings entries) expression
      (evaluate room entropy keep log settings (environment settings entries) expression) := by
  rw [evaluate]
  cases hc : (Program.compile (settings.limits room.compiling) (.ofText expression) :
    Except Node.Fault (Program Empty)) with
  | error fault =>
    obtain ⟨error, rfl⟩ := Program.compile_fails hc
    exact .refused hc (parseFailure_reports _ error)
  | ok program =>
    dsimp only
    cases hx : (program.execute Builtin.calls (environment settings entries)
      (settings.limits room.running) entropy).result with
    | error failure =>
      -- every value that comes up has a text, so the run fails with an error
      obtain ⟨error, rfl, -⟩ := Program.error_standard hc hb hx
      apply Concludes.failed hc hx
      exact failure_reports (by cases error.kind <;> exact Text.forall_of_all (by decide)) _ _
    | ok v =>
      dsimp only
      rw [printMarkup]
      cases hr : Markup.render v.written with
      | error fault => exact .unprinted hc hx hr
      | ok output => exact .printed hc hx hr _

/-- What keeps an evaluation from an answer. -/
inductive Breaks (room : Room) (files : Text → FileState) (request : EvalRequest) : Crash → Prop
  | notText {fault : Utf8.Fault} (h : configured room files request = .error (.notText fault)) :
      Breaks room files request .notText
  | digits (h : configured room files request = .error .digits) : Breaks room files request .digits
  | stack (h : configured room files request = .error .stack) : Breaks room files request .stack
  | log {loaded : Settings.Loaded} {entries : List (Text × Value Empty)} {program : Program Empty}
      (hv : request.verbose = true) (h : configured room files request = .ok loaded)
      (hb : ReadsAs request.bindings entries)
      (hc : Program.compile (loaded.settings.limits room.compiling)
        (.ofText request.expression) = .ok program)
      (hp : room.logging < program.root.places 5) : Breaks room files request .stack

theorem answer_settles (hr : Request.read arguments = some (.eval request))
    (hi : ∀ fault, configured room files request = .error fault →
      ∃ complaints, fault = .invalid complaints) :
    Settles room files entropy request (answer room files entropy arguments) := by
  rw [answer, hr]
  dsimp only
  rw [answerEval]
  cases h : configured room files request with
  | error fault =>
    obtain ⟨complaints, rfl⟩ := hi fault h
    obtain ⟨shown, hp, hs⟩ := complaintMessage_eq (request.config.getD []) complaints
    rw [loadSettings_error h]
    dsimp only
    rw [hs]
    exact .invalid h hp
  | ok loaded =>
    rw [loadSettings_ok h]
    dsimp only
    rcases reads_or_malformed request.bindings with ⟨entries, hb⟩ | ⟨text, ht, hm, fault, he⟩
    · rw [readBindings_eq_ok hb]
      exact .evaluated h hb (layered_environment request loaded.settings entries)
        (evaluate_concludes room entropy _ _ (asked request loaded.settings) _
          (readBindings_eq_ok hb))
    · rw [he]
      exact .malformed h ht hm

theorem logOverflows_iff : logOverflows room files request = true ↔
    request.verbose = true ∧ ∃ loaded entries program, configured room files request = .ok loaded ∧
      ReadsAs request.bindings entries ∧
      (Program.compile (loaded.settings.limits room.compiling) (.ofText request.expression) :
        Except Node.Fault (Program Empty)) = .ok program ∧
      room.logging < program.root.places 5 := by
  rw [logOverflows, Bool.and_eq_true, compiled?]
  refine and_congr_right fun _ => ?_
  cases h : configured room files request with
  | error fault =>
    rw [loadSettings_error h]
    exact ⟨nofun, fun ⟨_, _, _, hl, _⟩ => nomatch hl⟩
  | ok loaded =>
    rw [loadSettings_ok h]
    dsimp only
    rcases reads_or_malformed request.bindings with ⟨entries, hb⟩ | ⟨-, -, -, fault, he⟩
    · rw [readBindings_eq_ok hb]
      change (Program.compile (loaded.settings.limits room.compiling)
        (.ofText request.expression)).toOption.any _ = true ↔ _
      constructor
      · intro hp
        cases hc : (Program.compile (loaded.settings.limits room.compiling)
          (.ofText request.expression) : Except Node.Fault (Program Empty)) with
        | error fault =>
          rw [hc] at hp
          cases hp
        | ok program =>
          rw [hc] at hp
          exact ⟨loaded, entries, program, rfl, hb, hc, of_decide_eq_true hp⟩
      · rintro ⟨_, _, program, ⟨⟩, -, hc, hp⟩
        rw [hc]
        exact decide_eq_true hp
    · rw [he]
      refine ⟨nofun, ?_⟩
      rintro ⟨_, _, _, -, hb, -⟩
      cases he.symm.trans (readBindings_eq_ok hb)

theorem logOverflows_of_error {fault : Settings.LoadFault}
    (h : configured room files request = .error fault) :
    logOverflows room files request = false := by
  apply Bool.eq_false_of_not_eq_true
  intro hl
  obtain ⟨-, _, _, _, hok, -⟩ := logOverflows_iff.mp hl
  cases h.symm.trans hok

/-- A command line that asks for an evaluation ends as its stages tell, unless something keeps it
from an answer, and then it crashes. The arguments are texts, so no lone surrogate comes into the
bindings or the expression. -/
theorem run_settles (hr : Request.read arguments = some (.eval request)) :
    (∀ cause, Breaks room files request cause → run room files entropy arguments = .crash cause) ∧
    ((∀ cause, ¬Breaks room files request cause) →
      Settles room files entropy request (run room files entropy arguments)) := by
  have hrun : run room files entropy arguments =
      if logOverflows room files request then .crash .stack
      else answer room files entropy arguments := by
    rw [run, hr]
  have hunread {fault : Settings.LoadFault} (h : configured room files request = .error fault) :
      run room files entropy arguments = answerEval room files entropy request := by
    rw [hrun, logOverflows_of_error h, if_neg Bool.false_ne_true, answer, hr]
  constructor
  · intro cause hb
    cases hb with
    | notText h => rw [hunread h, answerEval, loadSettings_error h]
    | digits h => rw [hunread h, answerEval, loadSettings_error h]
    | stack h => rw [hunread h, answerEval, loadSettings_error h]
    | log hv h hb hc hp => rw [hrun, if_pos (logOverflows_iff.mpr ⟨hv, _, _, _, h, hb, hc, hp⟩)]
  · intro hn
    have hl : logOverflows room files request = false := by
      apply Bool.eq_false_of_not_eq_true
      intro hl
      obtain ⟨hv, _, _, _, h, hb, hc, hp⟩ := logOverflows_iff.mp hl
      exact hn _ (.log hv h hb hc hp)
    rw [hrun, hl, if_neg Bool.false_ne_true]
    apply answer_settles hr
    intro fault h
    cases fault with
    | invalid complaints => exact ⟨complaints, rfl⟩
    | notText => exact absurd (.notText h) (hn _)
    | digits => exact absurd (.digits h) (hn _)
    | stack => exact absurd (.stack h) (hn _)

/-- A path that leads to no file leaves the settings at their defaults, and the last binding of the
name counts. -/
theorem run_settles_bound :
    let room : Room := .uniform 1000
    let files : Text → FileState := fun _ => .directory
    let arguments := ["eval", "x", "--config", "c", "-D", "x=1", "-D", "x=a b"].map String.toList
    let request : EvalRequest :=
      ⟨['x'], ["x=1".toList, "x=a b".toList], some ['c'], true, false⟩
    Request.read arguments = some (.eval request) ∧ (∀ cause, ¬Breaks room files request cause) ∧
      Settles room files ⟨0⟩ request (run room files ⟨0⟩ arguments) := by
  intro room files arguments request
  have hr : Request.read arguments = some (.eval request) := rfl
  have hc : configured room files request = .ok ⟨.default, true⟩ := rfl
  have hn : ∀ cause, ¬Breaks room files request cause := by
    intro cause hb
    cases hb with
    | notText h | digits h | stack h => cases hc.symm.trans h
    | log hv => cases hv
  exact ⟨hr, hn, (run_settles hr).2 hn⟩

theorem Reports.ne_crash {kind : String} {ending : Ending} (h : Reports kind ending)
    (cause : Crash) : ending ≠ .crash cause := by
  obtain ⟨shown, log, -, rfl⟩ := h
  exact nofun

/-- Printing a value has no trouble with the stack, and nothing else crashes. -/
theorem Settles.ne_stack {ending : Ending} (h : Settles room files entropy request ending) :
    ending ≠ .crash .stack := by
  cases h with
  | invalid | malformed => exact nofun
  | evaluated _ _ _ hc =>
    cases hc with
    | refused _ h | failed _ _ h => exact h.ne_crash .stack
    | printed => exact nofun
    | @unprinted _ _ fault => cases fault <;> exact nofun

def sums : Nat → Text
  | 0 => ['x']
  | n + 1 => sums n ++ ['+', 'x']

/-- A tree that is not too high to be evaluated may be too high to be logged. -/
theorem sums_unsettled :
    let room : Room := .uniform 1000
    let files : Text → FileState := fun _ => .missing
    let arguments := ["eval".toList, "--verbose".toList, sums 250]
    let request : EvalRequest := ⟨sums 250, [], none, true, true⟩
    Request.read arguments = some (.eval request) ∧
      ¬Settles room files ⟨0⟩ request (run room files ⟨0⟩ arguments) := by
  intro room files arguments request
  have hr : Request.read arguments = some (.eval request) := by decide +kernel
  have hrun : run room files ⟨0⟩ arguments = .crash .stack := by decide +kernel
  exact ⟨hr, fun h => h.ne_stack hrun⟩

end Reckoner.Command
