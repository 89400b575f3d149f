import Reckoner.Proofs.Console.Plain
import Reckoner.Proofs.Program.Standard

/-! # What an evaluation prints

An evaluation that gives a value ends in printing it as marked-up text. Numbers and functions are
plain text, so they are printed as they are written. A text that was bound is printed as it is only
if it is plain itself; what looks like a tag in it is not shown, or ends the command.
-/
namespace Reckoner.Command
open Value (Known)

variable {room : Room} {files : Text → FileState} {entropy : Entropy} {arguments : List Text}
  {request : EvalRequest} {loaded : Settings.Loaded} {entries : List (Text × Value Empty)}
  {program : Program Empty} {v : Value Empty}

theorem shownAsIs_of_fits {text : Text} (h : ∀ c ∈ text, Markup.IsPlain c)
    (hf : Layout.Fits text) : shownAsIs text = text ++ ['\n'] := by
  rw [shownAsIs, Layout.lines_of_fits hf fun c hc => (h c hc).2.2, Layout.printed_lines]

theorem printMarkup_plain {text : Text} (h : ∀ c ∈ text, Markup.IsPlain c) :
    printMarkup text = .ok (shownAsIs text) := by
  rw [printMarkup, Markup.render_plain h]

theorem written_plain {compiling running : Limits}
    (hb : readBindings request.bindings = .ok entries)
    (hc : Program.compile compiling (.ofText request.expression) = .ok program)
    (hv : (program.execute Builtin.calls (environment loaded.settings entries) running
      entropy).result = .ok v)
    (ht : ∀ t, v = .text t → ∀ c ∈ t, Markup.IsPlain c) : ∀ c ∈ v.written, Markup.IsPlain c := by
  obtain ⟨hg, hk⟩ := Program.value_standard hc hb hv
  rcases hk.grounded hb hg with ⟨x, rfl⟩ | ⟨name, t, -, rfl⟩ | ⟨b, rfl⟩
  · exact Value.number_plain x
  · exact Value.text_plain (ht t rfl)
  · exact Value.builtin_plain b

/-- The log of an evaluation that compiles a program overflows only if the tree is too high to be
logged. -/
theorem logOverflows_eq_false (hl : loadSettings room files request = .ok loaded)
    (hb : readBindings request.bindings = .ok entries)
    (hc : Program.compile (loaded.settings.limits room.compiling) (.ofText request.expression) =
      .ok program)
    (hlog : request.verbose = true → program.root.places 5 ≤ room.logging) :
    logOverflows room files request = false := by
  have hcompiled : compiled? room files request = some program := by
    simp only [compiled?, hl, hb, hc]
    rfl
  rw [logOverflows, hcompiled, Option.any_some]
  cases hv : request.verbose with
  | false => rfl
  | true => exact decide_eq_false (Nat.not_lt.mpr (hlog hv))

/-- An evaluation that gives a value prints it as marked-up text, unless the tree is to be logged
and too high for that. If the value is no text with markup, tabs or control characters in it, the
command ends well, and the output is the written value and a line end if its lines fit the console.
-/
theorem run_prints (hr : Request.read arguments = some (.eval request))
    (hl : loadSettings room files request = .ok loaded)
    (hb : readBindings request.bindings = .ok entries)
    (hc : Program.compile (loaded.settings.limits room.compiling) (.ofText request.expression) =
      .ok program)
    (hv : (program.execute Builtin.calls (environment loaded.settings entries)
      (loaded.settings.limits room.running) entropy).result = .ok v)
    (hlog : request.verbose = true → program.root.places 5 ≤ room.logging) :
    ∃ log, run room files entropy arguments = success log (printMarkup v.written) ∧
      ((∀ t, v = .text t → ∀ c ∈ t, Markup.IsPlain c) →
        run room files entropy arguments = .report ⟨0, shownAsIs v.written, [], log⟩ ∧
        (Layout.Fits v.written → shownAsIs v.written = v.written ++ ['\n'])) := by
  have ha : ∃ log, run room files entropy arguments = success log (printMarkup v.written) := by
    have hn := logOverflows_eq_false hl hb hc hlog
    simp only [run, hr, hn, answer, answerEval, hl, hb, evaluate, hc, hv]
    exact ⟨_, rfl⟩
  obtain ⟨log, ha⟩ := ha
  refine ⟨log, ha, fun ht => ?_⟩
  have hp := written_plain hb hc hv ht
  refine ⟨?_, shownAsIs_of_fits hp⟩
  rw [ha, printMarkup_plain hp]
  rfl

theorem run_prints_words :
    let room : Room := .uniform 1000
    let files : Text → FileState := fun _ => .missing
    ∃ log, run room files ⟨0⟩ (["eval", "x", "--var", "x=a b"].map String.toList) =
      .report ⟨0, "\"a b\"\n".toList, [], log⟩ := by
  intro room files
  let request : EvalRequest := ⟨['x'], ["x=a b".toList], none, true, false⟩
  let program : Program Empty := ⟨['x'], .value (.reference ['x']) (some ⟨0, 1⟩)⟩
  let entries : List (Text × Value Empty) := [(['x'], .text "a b".toList)]
  have hr : Request.read (["eval", "x", "--var", "x=a b"].map String.toList) =
      some (.eval request) := rfl
  have hl : loadSettings room files request = .ok ⟨.default, false⟩ := rfl
  have hb : readBindings request.bindings = .ok entries := rfl
  have hc : Program.compile (Settings.default.limits room.compiling) (.ofText request.expression) =
      .ok program := rfl
  have hv : (program.execute Builtin.calls (environment .default entries)
      (Settings.default.limits room.running) ⟨0⟩).result = .ok (.text "a b".toList) := rfl
  obtain ⟨log, -, ha⟩ := run_prints hr hl hb hc hv nofun
  have hp : ∀ t, (Value.text "a b".toList : Value Empty) = .text t → ∀ c ∈ t, Markup.IsPlain c := by
    rintro t ht
    cases ht
    exact Text.forall_of_all (by decide)
  have hf : Layout.Fits (Value.text "a b".toList : Value Empty).written := by
    intro line hline
    rw [List.mem_singleton.mp hline]
    decide
  obtain ⟨hreport, hshown⟩ := ha hp
  rw [hreport, hshown hf]
  exact ⟨log, rfl⟩

/-- A bound text that is a closing tag is the value, and printing it ends the command. -/
theorem run_crashes_closing :
    let room : Room := .uniform 1000
    let program : Program Empty := ⟨['x'], .value (.reference ['x']) (some ⟨0, 1⟩)⟩
    let entries : List (Text × Value Empty) := [(['x'], .text "[/b]".toList)]
    readBindings ["x=[/b]".toList] = .ok entries ∧
    Program.compile (Settings.default.limits room.compiling) (.ofText ['x']) = .ok program ∧
    (program.execute Builtin.calls (environment .default entries)
      (Settings.default.limits room.running) ⟨0⟩).result = .ok (.text "[/b]".toList) ∧
    run room (fun _ => .missing) ⟨0⟩ (["eval", "x", "--var", "x=[/b]"].map String.toList) =
      .crash .markup :=
  ⟨rfl, rfl, rfl, rfl⟩

end Reckoner.Command
