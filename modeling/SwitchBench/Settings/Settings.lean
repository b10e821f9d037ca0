import SwitchBench.Endpoint.Endpoint
import SwitchBench.Settings.Choice
import SwitchBench.Settings.Datum

/-! Settings and the layers they come from.

Each source of settings is a layer. Layers lie one above the other, and for each
setting the topmost layer that speaks of it counts; only the members of tables come
together from all layers. Settings of which no layer speaks have their standard
values. -/
namespace SwitchBench

/-- What can be set. -/
inductive Setting where
  | role
  | controlEndpoint
  | listenEndpoint
  | requestTimeout
  | responderTimeout
  | searchTimeout
  | logFilter
  | logFormat
deriving DecidableEq

namespace Setting

def all : List Setting :=
  [role, controlEndpoint, listenEndpoint, requestTimeout, responderTimeout, searchTimeout, logFilter,
    logFormat]

def name : Setting → String
  | role => "role"
  | controlEndpoint => "control_endpoint"
  | listenEndpoint => "listen_endpoint"
  | requestTimeout => "request_timeout_ms"
  | responderTimeout => "responder_timeout_ms"
  | searchTimeout => "search_timeout_ms"
  | logFilter => "log_filter"
  | logFormat => "log_format"

def ofName? (s : String) : Option Setting := all.find? fun k => k.name == s

end Setting

/-- What a source says of settings. Of several entries for one setting the last
counts. -/
abbrev Layer := List (Setting × Datum)

namespace Layer

def get? (l : Layer) (k : Setting) : Option Datum :=
  (l.reverse.find? fun e => e.1 == k).map Prod.snd

/-- The layer of entries that may have any name; those that name no setting do not
matter. -/
def ofEntries (entries : List (String × Datum)) : Layer :=
  entries.filterMap fun e => (Setting.ofName? e.1).map (·, e.2)

/-- What layers say of a setting, the topmost layer first. -/
def combined? (layers : List Layer) (k : Setting) : Option Datum :=
  layers.foldr (fun l below => (l.get? k).merge Datum.above below) none

end Layer

structure Settings where
  role : Role
  /-- Where commands are put to a server. -/
  controlEndpoint : Endpoint
  /-- Where a server listens. -/
  listenEndpoint : Endpoint
  requestTimeout : UInt64
  responderTimeout : UInt64
  searchTimeout : UInt64
  logFilter : String
  logFormat : LogFormat
deriving DecidableEq

/-- The port of a server where nothing else is said. -/
def standardPort : UInt16 := 5566

namespace Settings

def standard : Settings where
  role := .here
  controlEndpoint := ⟨"127.0.0.1", standardPort⟩
  listenEndpoint := ⟨"0.0.0.0", standardPort⟩
  requestTimeout := 20000
  responderTimeout := 20000
  searchTimeout := 30000
  logFilter := "info"
  logFormat := .compact

/-- The value of a setting: the standard one unless the layers speak of it, and none
when what they say does not fit. -/
def value? {α : Type} (layers : List Layer) (k : Setting) (read : Datum → Option α) (standard : α) :
    Option α :=
  match Layer.combined? layers k with
  | some d => read d
  | none => some standard

def endpoint? (d : Datum) : Option Endpoint :=
  d.text?.bind fun s => (Endpoint.ofText s.toList).toOption

/-- The settings that layers give, the topmost layer first. -/
def ofLayers? (layers : List Layer) : Option Settings := do
  let role ← value? layers .role (·.choice?.bind Role.ofName?) standard.role
  let controlEndpoint ← value? layers .controlEndpoint endpoint? standard.controlEndpoint
  let listenEndpoint ← value? layers .listenEndpoint endpoint? standard.listenEndpoint
  let requestTimeout ← value? layers .requestTimeout Datum.word64? standard.requestTimeout
  let responderTimeout ← value? layers .responderTimeout Datum.word64? standard.responderTimeout
  let searchTimeout ← value? layers .searchTimeout Datum.word64? standard.searchTimeout
  let logFilter ← value? layers .logFilter Datum.text? standard.logFilter
  let logFormat ← value? layers .logFormat (·.choice?.bind LogFormat.ofName?) standard.logFormat
  return ⟨role, controlEndpoint, listenEndpoint, requestTimeout, responderTimeout, searchTimeout,
    logFilter, logFormat⟩

end Settings

end SwitchBench
