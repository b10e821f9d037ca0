import SwitchBench.CommandLine.Outcome
import SwitchBench.CommandLine.ScriptFile
import SwitchBench.CommandLine.Split
import SwitchBench.CommandLine.Usage
import SwitchBench.Settings.Loading
import SwitchBench.Settings.Logging

/-! The command line as a whole.

First the command is read, then the settings are loaded, then logging is set up, and
only then something is done. The role says whether commands go to a bench at hand or
over a network. -/
namespace SwitchBench

/-- What a program meets outside itself. -/
structure Outside (m : Type → Type) (σ : Type) where
  files : FileSource m
  environment : List (String × String)
  /-- What is reached over the network at an endpoint. -/
  link : Endpoint → Link σ
  logging : Logging

/-- What comes of a command line. -/
inductive Answer where
  | usage (reason : UsageError)
  | noSettings (reason : SettingsError)
  | noLogging (reason : LoggingError)
  | done (outcome : Outcome)
  /-- A run goes on until it is stopped. -/
  | endless

section
variable {m : Type → Type} [Monad m] {σ : Type} (outside : Outside m σ)

/-- What comes of a script file, where `f` says what comes of the script. -/
def withScript (path : String) (s : σ) (f : List Char → Option Outcome × σ) :
    m (Option Outcome × σ) := do
  match ← readScript outside.files path.toList with
  | .error e =>
    return (some (.failure [] [] s!"failed to read batch script {path}: {e.message}"), s)
  | .ok text => return f text

/-- The sink that commands go to over the network. -/
def Outside.sink (settings : Settings) : Sink σ :=
  networkSink settings.controlEndpoint.display (outside.link settings.controlEndpoint)

/-- Carries out a task. Gives nothing when it goes on without end. -/
def Task.perform (settings : Settings) (s : σ) : Task → m (Option Outcome × σ)
  | check path => withScript outside path s fun text => (some (checkScript text), s)
  | run path force untilStopped => withScript outside path s fun text =>
    match settings.role with
    | .here => (runScriptHere force untilStopped text, s)
    | .network => runScriptThrough (outside.sink settings) force untilStopped text s
  | status name model =>
    match settings.role with
    | .here => return (some (askStatus benchSink name (.idle (.permissive model))).1, s)
    | .network =>
      let (outcome, s) := askStatus (outside.sink settings) name s
      return (some outcome, s)

/-- What comes of a command line that begins with the name of the program. -/
def answer (args : List String) (s : σ) : m (Answer × σ) := do
  let split := ArgumentSplit.ofArguments args
  match Task.ofArguments ((split.commandArguments args).drop 1) with
  | .error e => return (.usage e, s)
  | .ok task =>
    match ← Settings.load outside.files (split.flagArguments.drop 1) outside.environment with
    | .error e => return (.noSettings e, s)
    | .ok settings =>
      match outside.logging.install settings.logFilter with
      | .error e => return (.noLogging e, s)
      | .ok _ =>
        match ← task.perform outside settings s with
        | (some outcome, s) => return (.done outcome, s)
        | (none, s) => return (.endless, s)

end

namespace Answer

def versionLine : String := "switchctl 0.1.0"

def helpLines : List String :=
  ["Usage: switchctl [settings] <command>",
   "",
   "Commands:",
   "  check <script>                              check a batch script",
   "  run [--force] [--until-stopped] <script>    run a batch script",
   "  status [--model <model>] <switch>           ask a switch for its status",
   "",
   "Settings, in front of the command:"] ++
  (Flag.all.map fun f => s!"  --{f.name} <value>") ++
  ["", "  -h, --help       show this text", "  -V, --version    show the version"]

def usageRemark : UsageError → String
  | .helpAsked | .versionAsked | .nothingGiven => ""
  | .unknownArgument => "unknown argument"
  | .unknownCommand => "unknown command"
  | .missingOperand => "the command lacks its operand"
  | .emptyValue => "a value is missing or empty"
  | .invalidValue => "a value does not fit its option"
  | .repeatedOption => "an option is repeated"
  | .needlessValue => "an option takes no value"

/-- The lines of an answer. A run without end has none. -/
def outcome : Answer → Outcome
  | usage .helpAsked => ⟨helpLines, [], true⟩
  | usage .versionAsked => ⟨[versionLine], [], true⟩
  | usage .nothingGiven => ⟨[], helpLines, false⟩
  | usage e => .failure [] [] s!"error: {usageRemark e}"
  | noSettings e => .failure [] [] s!"failed to load configuration: {e.message}"
  | noLogging e => .failure [] [] s!"failed to initialise logging: {e.message}"
  | done o => o
  | endless => ⟨[], [], true⟩

end Answer

end SwitchBench
