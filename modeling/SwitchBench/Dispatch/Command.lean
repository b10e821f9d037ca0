import SwitchBench.Message.Request
import SwitchBench.Switch.Error

/-! Commands to one switch.

A command is carried out on the bench at hand or put to a server as a request. Either
way it ends in a reply or in a failure. -/
namespace SwitchBench

inductive Command where
  | connect (id : SwitchId) (via : Interface) (baud : Option UInt32)
  | disconnect (id : SwitchId)
  | port (id : SwitchId) (number : UInt8)
  | speed (id : SwitchId) (mode : Speed)
  | read (id : SwitchId) (parameter : Parameter)
deriving DecidableEq

namespace Command

def id : Command → SwitchId
  | connect id .. | disconnect id | port id _ | speed id _ | read id _ => id

def name : Command → String
  | connect .. => "open"
  | disconnect _ => "close"
  | port .. => "port"
  | speed .. => "speed"
  | read .. => "read"

/-- Whether the command connects or disconnects a port. -/
def setsPort : Command → Bool
  | port .. => true
  | _ => false

/-- The control command that reads a parameter. -/
def reading : Parameter → ControlCommand
  | .status => .status
  | .volts => .volts
  | .amps => .amps
  | .version => .read

/-- The request that puts the command to a server. -/
def request : Command → Request
  | connect id via baud =>
    let r := ((Request.device .open').naming id.text).via via
    match baud with
    | some rate => r.atRate rate
    | none => r
  | disconnect id => (Request.device .close).naming id.text
  | port id n =>
    ((Request.control .serial .switch).naming id.text).saying (String.ofList (Text.decimal n.toNat))
  | speed id mode => ((Request.control .serial .speed).naming id.text).saying mode.name
  | read id p => ((Request.control .serial (reading p)).naming id.text).saying p.name

end Command

/-- What a command that was carried out answers. -/
structure Reply where
  data : Json

namespace Reply

def ofText (s : String) : Reply := ⟨.string s⟩

/-- The answer for people: a text as it is, any other value as JSON. -/
def text (r : Reply) : String := r.data.text?.getD r.data.text

end Reply

end SwitchBench
