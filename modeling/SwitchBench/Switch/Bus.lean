import SwitchBench.Switch.Error
import SwitchBench.Switch.Roster

/-! Switches attached to a machine.

The bus knows a set of switches, each with its state (`Snapshot`). A bus with a
fallback model takes any identifier for a switch of that model: it comes to know
the identifier when it is first opened. A switch that is not responsive answers
nothing and keeps its state. -/
namespace SwitchBench

/-- The state of one switch. Port 0 means that no port is connected. -/
structure Snapshot where
  model : Model
  port : UInt8
  speed : Speed
  responsive : Bool
  isOpen : Bool
deriving DecidableEq

namespace Snapshot

/-- A switch as it comes: no port, fast lines connected, responsive, closed. -/
def fresh (model : Model) : Snapshot := ⟨model, 0, .ss1, true, false⟩

/-- What the switch says of itself. The meters read zero while no port is
connected. -/
def report (s : Snapshot) : Parameter → String
  | .status => s!"p{s.port.toNat} {s.speed.name}"
  | .volts => if s.port = 0 then "0.00" else "5.00"
  | .amps => if s.port = 0 then "0.000" else "0.100"
  | .version => s!"simulated-{s.model.name}"

end Snapshot

/-- How a search for attached switches goes. -/
inductive Scan where
  | prompt
  | slow (milliseconds : Nat)
  | fails (error : SwitchError)
  | crashes
deriving DecidableEq

structure Bus where
  switches : Roster Snapshot
  fallback : Option Model
  scan : Scan
deriving DecidableEq

/-- One switch found by a search. -/
structure Listing where
  id : SwitchId
  model : Model
  via : Interface
  connected : Bool
deriving DecidableEq

namespace Bus

/-- A bus with exactly the listed switches, all fresh. -/
def listed (models : List (SwitchId × Model)) : Bus :=
  ⟨.ofList (models.map fun e => (e.1, .fresh e.2)), none, .prompt⟩

/-- A bus that takes any identifier for a switch of one model. -/
def permissive (model : Model) : Bus := ⟨.empty, some model, .prompt⟩

def snapshot? (bus : Bus) (id : SwitchId) : Option Snapshot := bus.switches.get? id

/-- The state of `id`, if it answers. -/
def answering? (bus : Bus) (id : SwitchId) : Option Snapshot :=
  (bus.snapshot? id).filter (·.responsive)

def set (bus : Bus) (id : SwitchId) (s : Snapshot) : Bus :=
  { bus with switches := bus.switches.set id s }

/-- Changes the state of a known switch; an unknown one stays unknown. -/
def update (bus : Bus) (id : SwitchId) (f : Snapshot → Snapshot) : Bus :=
  match bus.snapshot? id with
  | some s => bus.set id (f s)
  | none => bus

/-- Makes `id` known where the fallback model allows it. -/
def meet (bus : Bus) (id : SwitchId) : Bus :=
  match bus.snapshot? id, bus.fallback with
  | none, some model => bus.set id (.fresh model)
  | _, _ => bus

/-- Opens a switch and says of what model it is. -/
def opening (bus : Bus) (id : SwitchId) : Except SwitchError Model × Bus :=
  let bus := bus.meet id
  match bus.snapshot? id with
  | none => (.error (.cannotOpen id "no such device"), bus)
  | some s =>
    if s.responsive then (.ok s.model, bus.set id { s with isOpen := true })
    else (.error (.noResponse id), bus)

/-- Closes a switch, responsive or not. -/
def close (bus : Bus) (id : SwitchId) : Bus := bus.update id fun s => { s with isOpen := false }

def setResponsive (bus : Bus) (id : SwitchId) (on : Bool) : Bus :=
  bus.update id fun s => { s with responsive := on }

/-- The known switches by identifier, each with whether it is open. -/
def listing (bus : Bus) : List Listing :=
  bus.switches.entries.map fun e => ⟨e.1, e.2.model, .serial, e.2.isOpen⟩

end Bus

end SwitchBench
