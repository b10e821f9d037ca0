import SwitchBench.Switch.Bus

/-! The switches in use on a machine.

A bench is a bus and the handles held on it, at most one per switch. A switch is
commanded through its handle, which remembers the model; a command is first checked
against the model and then put to the switch. Every operation returns its result
and the bench after it. -/
namespace SwitchBench

structure Bench where
  bus : Bus
  handles : Roster Model
deriving DecidableEq

/-- What a switch answers when it has done as told. -/
def acknowledgement : String := "success"

namespace Bench

/-- A bench on which no switch is in use. -/
def idle (bus : Bus) : Bench := ⟨bus, .empty⟩

def isConnected (b : Bench) (id : SwitchId) : Bool := b.handles.contains id

/-- The switches in use, in ascending order. -/
def connected (b : Bench) : List SwitchId := b.handles.ids

def model (b : Bench) (id : SwitchId) : Except SwitchError Model :=
  match b.handles.get? id with
  | some m => .ok m
  | none => .error (.notConnected id)

/-- Opens a switch and keeps the handle. -/
def connect (b : Bench) (id : SwitchId) : Except SwitchError Model × Bench :=
  if b.isConnected id then (.error (.alreadyConnected id), b)
  else match b.bus.opening id with
    | (.ok m, bus) => (.ok m, ⟨bus, b.handles.set id m⟩)
    | (.error e, bus) => (.error e, { b with bus })

/-- Gives up the handle, the first half of a disconnect. -/
def forget (b : Bench) (id : SwitchId) : Except SwitchError Unit × Bench :=
  if b.isConnected id then (.ok (), { b with handles := b.handles.erase id })
  else (.error (.notConnected id), b)

/-- Closes the switch behind a handle that was given up, the second half. -/
def release (b : Bench) (id : SwitchId) : Bench := { b with bus := b.bus.close id }

def disconnect (b : Bench) (id : SwitchId) : Except SwitchError Unit × Bench :=
  match b.forget id with
  | (.ok (), b) => (.ok (), b.release id)
  | (.error e, b) => (.error e, b)

/-- Puts a command to the switch behind a handle: `refuse` checks it against the
model, `act` says what a responsive switch answers and becomes. -/
def command {α : Type} (b : Bench) (id : SwitchId) (refuse : Model → Option SwitchError)
    (act : Snapshot → α × Snapshot) : Except SwitchError α × Bench :=
  match b.handles.get? id with
  | none => (.error (.notConnected id), b)
  | some m =>
    match refuse m with
    | some e => (.error e, b)
    | none =>
      match b.bus.answering? id with
      | none => (.error (.noResponse id), b)
      | some s => (.ok (act s).1, { b with bus := b.bus.set id (act s).2 })

/-- Connects a port; port 0 disconnects all. -/
def setPort (b : Bench) (id : SwitchId) (port : UInt8) : Except SwitchError String × Bench :=
  b.command id (fun m => if m.accepts port then none else some (.noSuchPort id m port))
    fun s => (acknowledgement, { s with port })

/-- Selects the speed of the next connection. -/
def setSpeed (b : Bench) (id : SwitchId) (mode : Speed) : Except SwitchError String × Bench :=
  b.command id (fun m => if m.hasSpeed then none else some (.noSpeedControl id m mode))
    fun s => (acknowledgement, { s with speed := mode })

/-- Reads a parameter back; measurements take a model with meters. -/
def read (b : Bench) (id : SwitchId) (p : Parameter) : Except SwitchError String × Bench :=
  b.command id (fun m => if p.isMeasurement && !m.hasMeters then some (.noMeters id m p) else none)
    fun s => (s.report p, s)

/-- The known switches by identifier, each with whether a handle is held. -/
def listing (b : Bench) : List Listing :=
  b.bus.listing.map fun l => { l with connected := b.isConnected l.id }

/-- The listing, unless the search of the bus fails. -/
def discover (b : Bench) : Except SwitchError (List Listing) :=
  match b.bus.scan with
  | .fails e => .error e
  | _ => .ok b.listing

def setResponsive (b : Bench) (id : SwitchId) (on : Bool) : Bench :=
  { b with bus := b.bus.setResponsive id on }

end Bench

end SwitchBench
