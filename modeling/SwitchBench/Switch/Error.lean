import SwitchBench.Switch.Id
import SwitchBench.Switch.Model

/-! What can go wrong with a switch.

An error names its cause; `message` is its wording for people and `kind` its class
on the wire. -/
namespace SwitchBench

/-- The class of a failure. A class this library does not know is `other`. -/
inductive FaultKind where
  | notConnected | alreadyConnected | noResponse | unsupported | timeout | device | other
deriving DecidableEq

namespace FaultKind

def all : List FaultKind :=
  [notConnected, alreadyConnected, noResponse, unsupported, timeout, device, other]

/-- The name of the class in a message. -/
def code : FaultKind → String
  | notConnected => "not_connected"
  | alreadyConnected => "already_connected"
  | noResponse => "no_response"
  | unsupported => "unsupported"
  | timeout => "timeout"
  | device => "device"
  | other => "other"

/-- The name of the class in wording for people. -/
def label : FaultKind → String
  | notConnected => "NotConnected"
  | alreadyConnected => "AlreadyConnected"
  | noResponse => "NoResponse"
  | unsupported => "Unsupported"
  | timeout => "Timeout"
  | device => "Device"
  | other => "Other"

def ofCode (s : String) : FaultKind := (all.find? fun k => k.code == s).getD other

theorem ofCode_code (k : FaultKind) : ofCode k.code = k := by cases k <;> decide

end FaultKind

inductive SwitchError where
  | notConnected (id : SwitchId)
  | alreadyConnected (id : SwitchId)
  | noResponse (id : SwitchId)
  | noSuchPort (id : SwitchId) (model : Model) (port : UInt8)
  | noSpeedControl (id : SwitchId) (model : Model) (mode : Speed)
  | noMeters (id : SwitchId) (model : Model) (parameter : Parameter)
  | cannotOpen (id : SwitchId) (reason : String)
  | scanFailed (reason : String)
  | internal (reason : String)
deriving DecidableEq

namespace SwitchError

def message : SwitchError → String
  | notConnected id => s!"switch {id.text} is not connected"
  | alreadyConnected id => s!"switch {id.text} is already connected"
  | noResponse id => s!"switch {id.text} did not respond"
  | noSuchPort id model port => s!"switch {id.text} (model {model.name}) has no port {port.toNat}"
  | noSpeedControl id model mode => s!"switch {id.text} (model {model.name}) cannot select {mode.name}"
  | noMeters id model parameter =>
    s!"switch {id.text} (model {model.name}) cannot report {parameter.name}"
  | cannotOpen id reason => s!"failed to open switch {id.text}: {reason}"
  | scanFailed reason => s!"device discovery failed: {reason}"
  | internal reason => s!"internal error: {reason}"

def kind : SwitchError → FaultKind
  | notConnected _ => .notConnected
  | alreadyConnected _ => .alreadyConnected
  | noResponse _ => .noResponse
  | noSuchPort .. | noSpeedControl .. | noMeters .. => .unsupported
  | cannotOpen .. | scanFailed _ | internal _ => .device

end SwitchError

end SwitchBench
