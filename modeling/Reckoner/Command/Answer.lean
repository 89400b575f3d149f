import Reckoner.Binding
import Reckoner.Command.Request
import Reckoner.Console.Outline
import Reckoner.Evaluation
import Reckoner.Settings.File

/-! # Answers

What a request leads to: the settings first, then the bindings, then compiling and running. The
first of these that fails decides how the command ends. A result is printed as marked-up text,
messages are printed as they are.
-/
namespace Reckoner.Command

/-- The places on the stack that are left for each of the things that a command does. -/
structure Room where
  settings : Nat
  compiling : Nat
  running : Nat
  logging : Nat

def Room.uniform (places : Nat) : Room := ⟨places, places, places, places⟩

inductive Level
  | debug
  | warning
  deriving DecidableEq

def Level.name : Level → String
  | .debug => "DEBUG"
  | .warning => "WARNING"

structure LogLine where
  level : Level
  source : String
  message : Text
  deriving DecidableEq

structure Report where
  exit : Nat
  output : Text
  errors : Text
  log : List LogLine
  deriving DecidableEq

inductive Crash
  | markup
  | colour
  | notText
  | digits
  | internal
  | stack
  deriving DecidableEq

def Crash.message : Crash → String
  | .markup => "a tag does not fit the text around it"
  | .colour => "a part of a colour is no number"
  | .notText => "the settings file is not UTF-8 text"
  | .digits => "a number in the settings file has too many digits"
  | .internal => "a phrase does not fit its rule"
  | .stack => "something is nested too deep for the stack"

inductive Ending
  | usage
  | crash (cause : Crash)
  | report (r : Report)
  deriving DecidableEq

def Ending.exit : Ending → Nat
  | .usage => 2
  | .crash _ => 1
  | .report r => r.exit

def versionLine : Text := "exprcalc 0.1.0\n".toList

def shownAsIs (text : Text) : Text := Layout.printed (Layout.lines text)

def Crash.ofMarkup : Markup.Fault → Crash
  | .unmatched _ => .markup
  | .handler _ => .markup
  | .style _ => .colour

def printMarkup (text : Text) : Except Crash Text :=
  match Markup.render text with
  | .ok shown => .ok (shownAsIs shown)
  | .error fault => .error (.ofMarkup fault)

def errorLine (kind : String) (report : Text) : Except Crash Text :=
  printMarkup ("[red]Error (".toList ++ kind.toList ++ "):[/red] ".toList ++ Markup.escape report)

def failure (log : List LogLine) (message : Except Crash Text) : Ending :=
  match message with
  | .ok errors => .report ⟨1, [], errors, log⟩
  | .error crash => .crash crash

def success (log : List LogLine) (output : Except Crash Text) : Ending :=
  match output with
  | .ok output => .report ⟨0, output, [], log⟩
  | .error crash => .crash crash

def parseFailure (log : List LogLine) (error : ParseError) : Ending :=
  failure log (errorLine error.kind.name (CodePoint.shownText error.report))

def complaintLines (complaint : Complaint) : Text :=
  Text.joined ['.'] complaint.path ++ "\n  ".toList ++ complaint.cause.message

def complaintMessage (path : Text) (complaints : List Complaint) : Except Crash Text :=
  let noun := if complaints.length = 1 then " validation error for CalcConfig"
    else " validation errors for CalcConfig"
  let list := Text.ofNat complaints.length ++ noun.toList ++
    complaints.flatMap fun c => '\n' :: complaintLines c
  printMarkup ("[red]Invalid config ".toList ++ Markup.escape path ++ ":[/red] ".toList ++
    Markup.escape list)

/-- Compiling never refuses the bounds or the shape of what was read, so only errors of the
source are left to report. -/
def compileFailure (log : List LogLine) : Node.Fault → Ending
  | .source error => parseFailure log error
  | .bounds _ | .malformed _ | .stackExhausted => .crash .internal

def cliLog : String := "exprcalc.cli"
def settingsLog : String := "exprcalc.core.config"
def compilerLog : String := "exprcalc.core.expression_lang.compiler"
def executorLog : String := "exprcalc.core.expression_lang.executor"

def environmentLine (count : Nat) : LogLine :=
  ⟨.debug, cliLog, "Environment has ".toList ++ Text.ofNat count ++ " binding(s)".toList⟩

def compiledLine {η : Type} (program : Program η) : LogLine :=
  ⟨.debug, compilerLog,
    "Compiled ".toList ++ Text.quoted program.source ++ " into ".toList ++ program.written⟩

def executedLine {η : Type} (program : Program η) (value : Value η) : LogLine :=
  ⟨.debug, executorLog,
    "Executed ".toList ++ Text.quoted program.source ++ " -> ".toList ++ value.written⟩

/-- The line that the trace of a run leaves in the log. -/
def eventLine? {η : Type} : Event η → Option LogLine
  | .looked _ => none
  | .called f arguments =>
    some ⟨.debug, executorLog,
      "Calling ".toList ++ f.id ++ " with ".toList ++ Text.ofNat arguments.length ++
        " argument(s)".toList⟩

def warningLine (path : Text) : LogLine :=
  ⟨.warning, settingsLog, "Ignoring unreadable config ".toList ++ path⟩

def readBindings {η : Type} : List Text → Except Binding.Fault (List (Text × Value η))
  | [] => .ok []
  | text :: rest =>
    match Binding.read text with
    | .error fault => .error fault
    | .ok binding =>
      match readBindings rest with
      | .error fault => .error fault
      | .ok bindings => .ok (binding :: bindings)

/-- The names of the settings with the given bindings over them, the last one of a name winning. -/
def environment {η : Type} (settings : Settings) (bindings : List (Text × Value η)) :
    Environment η :=
  Bindings.overlay settings.environment bindings

/-- Compiles and runs an expression. `keep` tells which log lines are wanted. -/
def evaluate (room : Room) (entropy : Entropy) (keep : LogLine → Bool) (log : List LogLine)
    (settings : Settings) (env : Environment Empty) (expression : Text) : Ending :=
  let log := log ++ [environmentLine env.length]
  match Program.compile (settings.limits room.compiling) (.ofText expression) with
  | .error fault => compileFailure (log.filter keep) fault
  | .ok program =>
    let outcome := program.execute Builtin.calls env (settings.limits room.running) entropy
    let log := log ++ compiledLine program :: outcome.events.filterMap eventLine?
    match outcome.result with
    | .error (.error error) => failure (log.filter keep) (errorLine error.kind.name error.message)
    | .error .uncaught => .crash .internal
    | .ok value =>
      success ((log ++ [executedLine program value]).filter keep) (printMarkup value.written)

def configured (room : Room) (files : Text → FileState) (request : EvalRequest) :
    Except Settings.LoadFault Settings.Loaded :=
  match request.config with
  | some path => Settings.load room.settings (files path)
  | none => .ok ⟨.default, false⟩

def loadSettings (room : Room) (files : Text → FileState) (request : EvalRequest) :
    Except Settings.LoadFault Settings.Loaded :=
  let loaded := configured room files request
  if request.standard then loaded
  else loaded.map fun l => { l with settings := { l.settings with standard := false } }

def answerEval (room : Room) (files : Text → FileState) (entropy : Entropy)
    (request : EvalRequest) : Ending :=
  let path := request.config.getD []
  match loadSettings room files request with
  | .error (.notText _) => .crash .notText
  | .error .digits => .crash .digits
  | .error .stack => .crash .stack
  | .error (.invalid complaints) => failure [] (complaintMessage path complaints)
  | .ok loaded =>
    match readBindings request.bindings with
    | .error _ => .usage
    | .ok bindings =>
      let keep (line : LogLine) := request.verbose || line.level == .warning
      let log := if loaded.warned then [warningLine path] else []
      evaluate room entropy keep log loaded.settings (environment loaded.settings bindings)
        request.expression

def answerTree (room : Room) (expression : Text) : Ending :=
  match (Program.compile (Settings.default.limits room.compiling) (.ofText expression) :
    Except Node.Fault (Program Empty)) with
  | .error fault => compileFailure [] fault
  | .ok program =>
    match Outline.print program.source program.root with
    | .ok shown => .report ⟨0, shown, [], []⟩
    | .error fault => .crash (.ofMarkup fault)

def helpText : Text := "Usage: exprcalc [--version] [--help] COMMAND [ARGS]...\n".toList

/-- Answers a command line, as far as everything that is to be logged can be written. -/
def answer (room : Room) (files : Text → FileState) (entropy : Entropy) (arguments : List Text) :
    Ending :=
  match Request.read arguments with
  | none => .usage
  | some .version => .report ⟨0, versionLine, [], []⟩
  | some .help => .report ⟨0, helpText, [], []⟩
  | some (.eval request) => answerEval room files entropy request
  | some (.tree expression) => answerTree room expression

def compiled? (room : Room) (files : Text → FileState) (request : EvalRequest) :
    Option (Program Empty) :=
  match loadSettings room files request with
  | .error _ => none
  | .ok loaded =>
    match (readBindings request.bindings : Except Binding.Fault (List (Text × Value Empty))) with
    | .error _ => none
    | .ok _ =>
      (Program.compile (loaded.settings.limits room.compiling)
        (.ofText request.expression)).toOption

/-- Whether the stack has too few places for printing the tree that is to be logged. A level of the
tree takes five. -/
def logOverflows (room : Room) (files : Text → FileState) (request : EvalRequest) : Bool :=
  request.verbose &&
    (compiled? room files request).any fun program => room.logging < program.root.places 5

/-- Answers a command line. Nothing guards the log against running out of the stack. -/
def run (room : Room) (files : Text → FileState) (entropy : Entropy) (arguments : List Text) :
    Ending :=
  match Request.read arguments with
  | some (.eval request) =>
    if logOverflows room files request then .crash .stack
    else answer room files entropy arguments
  | _ => answer room files entropy arguments

end Reckoner.Command
