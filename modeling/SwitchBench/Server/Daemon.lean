import SwitchBench.Settings.Loading
import SwitchBench.Settings.Logging

/-! The life of a daemon.

A daemon loads its settings, sets up logging and opens its bench; only then does it
listen. It serves until it is told to end, and stops listening before it ends, also
when waiting for that word fails. Each stage is reported when it is reached. -/
namespace SwitchBench

/-- Why a daemon does not listen. -/
inductive ListenError where
  /-- The host stands for no address. -/
  | unresolved (host : String) (port : UInt16) (reason : SystemError)
  /-- The address cannot be listened on. -/
  | unbound (address : String) (reason : SystemError)
deriving DecidableEq

def ListenError.message : ListenError → String
  | unresolved host port reason =>
    s!"failed to resolve TCP address {host}:{port.toNat}: {reason.message}"
  | unbound address reason => s!"failed to bind TCP listener at {address}: {reason.message}"

/-- Why a daemon does not get as far as listening. -/
inductive BootstrapError where
  | settings (reason : SettingsError)
  | logging (reason : LoggingError)
deriving DecidableEq

def BootstrapError.message : BootstrapError → String
  | settings reason => s!"failed to load configuration: {reason.message}"
  | logging reason => s!"failed to initialise telemetry: {reason.message}"

inductive DaemonError where
  | bootstrap (reason : BootstrapError)
  | listener (reason : ListenError)
  /-- There is no way to be told to end. -/
  | shutdown (reason : String)
deriving DecidableEq

def DaemonError.message : DaemonError → String
  | bootstrap reason => s!"daemon bootstrap failed: {reason.message}"
  | listener reason => s!"request server failed: {reason.message}"
  | shutdown reason =>
    s!"failed to await shutdown signal: failed to install signal handlers: {reason}"

/-- A stage in the life of a daemon. -/
inductive DaemonStage where
  | starting
  | ready (settings : Settings)
  | failed
  | listening (address : String)
  | stopped
deriving DecidableEq

namespace Daemon

/-- The way up to listening: the stages, and either the settings to serve by or the
reason why there is no serving. `listen` says at which address an endpoint is listened
on. -/
def rise (settings : Except SettingsError Settings) (logging : Logging)
    (listen : Endpoint → Except ListenError String) :
    List DaemonStage × Except DaemonError Settings :=
  match settings with
  | .error e => ([.starting, .failed], .error (.bootstrap (.settings e)))
  | .ok s =>
    match logging.install s.logFilter with
    | .error e => ([.starting, .failed], .error (.bootstrap (.logging e)))
    | .ok _ =>
      match listen s.listenEndpoint with
      | .error e => ([.starting, .ready s], .error (.listener e))
      | .ok address => ([.starting, .ready s, .listening address], .ok s)

/-- The way down, once waiting for the end has come to something. -/
def fall (waited : Except String Unit) : List DaemonStage × Except DaemonError Unit :=
  ([.stopped], match waited with
    | .ok () => .ok ()
    | .error reason => .error (.shutdown reason))

/-- The whole life. `wait` is what happens between listening and the end, in a state. -/
def live {σ : Type} (settings : Except SettingsError Settings) (logging : Logging)
    (listen : Endpoint → Except ListenError String)
    (wait : Settings → σ → Except String Unit × σ) (s : σ) :
    List DaemonStage × Except DaemonError Unit × σ :=
  match rise settings logging listen with
  | (stages, .error e) => (stages, .error e, s)
  | (stages, .ok chosen) =>
    let (waited, s) := wait chosen s
    let (last, result) := fall waited
    (stages ++ last, result, s)

end Daemon

end SwitchBench
