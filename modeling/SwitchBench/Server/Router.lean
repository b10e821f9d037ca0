import SwitchBench.Message.Request
import SwitchBench.Message.Response

/-! Answering requests.

Every request gets one response. A request that makes no sense is invalid; a switch
that cannot be opened or closed is a failure without a reason; any other error of a
switch is reported with its class and message. A control request that names no
switch is for the only one in use. -/
namespace SwitchBench

/-- The response to what a switch says. -/
def Response.ofResult : Except SwitchError String → Response
  | .ok s => text s
  | .error e => fault (.ofError e)

/-- The response to an open or a close. -/
def Response.ofOutcome {α : Type} : Except SwitchError α → Response
  | .ok _ => success
  | .error _ => fail

def Listing.json (l : Listing) : Json :=
  .ofMembers [("id", .string l.id.text), ("model", .string l.model.name),
    ("interface", .string l.via.name), ("connected", .bool l.connected)]

namespace Bench

/-- The response to a search that may take less than `limit` milliseconds. It is searched in a thread of
its own, which is always to be had here: there is no response `search failed: ...` for want of one. -/
def searchResponse (limit : Nat) (b : Bench) : Response :=
  let late : Response :=
    .fault ⟨.timeout, s!"device search did not finish within {limit} ms"⟩
  let found : Response := ⟨.array (b.listing.map Listing.json)⟩
  match b.bus.scan with
  | .prompt => if limit = 0 then late else found
  | .slow ms => if ms < limit then found else late
  | .fails e => if limit = 0 then late else .fault (.ofError e)
  | .crashes => if limit = 0 then late else .fault ⟨.device, "device search worker exited"⟩

/-- Answers a request about switches as devices. -/
def answerDevice (limit : Nat) (b : Bench) (r : Request) : Response × Bench :=
  match r.cmd.name?.bind DeviceCommand.ofText?, r.switch? with
  | some .search, _ => (b.searchResponse limit, b)
  | some .open', some id =>
    let (result, b) := b.connect id
    (.ofOutcome result, b)
  | some .close, some id =>
    let (result, b) := b.disconnect id
    (.ofOutcome result, b)
  | _, _ => (.invalid, b)

/-- The switch that a control request is for. -/
def target (b : Bench) (r : Request) : Except SwitchError SwitchId :=
  match r.switch?, b.connected with
  | some id, _ => .ok id
  | none, [id] => .ok id
  | none, _ => .error (.notConnected ⟨"<unspecified>"⟩)

/-- The response to a result of the bench, beside the bench after it. -/
def respond (r : Except SwitchError String × Bench) : Response × Bench := (.ofResult r.1, r.2)

/-- Carries out a control command on a switch. -/
def control (b : Bench) (id : SwitchId) (c : ControlCommand) (argument : Option (List Char)) :
    Response × Bench :=
  match c with
  | .switch => match argument.bind Text.byte? with
    | some port => respond (b.setPort id port)
    | none => (.invalid, b)
  | .speed => match argument.bind Speed.ofWord? with
    | some mode => respond (b.setSpeed id mode)
    | none => (.invalid, b)
  | .read => match argument.bind Parameter.ofWord? with
    | some p => respond (b.read id p)
    | none => (.invalid, b)
  | .status => respond (b.read id .status)
  | .volts => respond (b.read id .volts)
  | .amps => respond (b.read id .amps)

/-- What a control request asks for: a named command or, over USB, a port. -/
inductive Order where
  | named (c : ControlCommand)
  | bare (port : UInt8)
deriving DecidableEq

def order? (r : Request) : Option Order :=
  match r.cmd.name?.bind ControlCommand.ofText? with
  | some c => some (.named c)
  | none => if r.interface? = some .usb then r.cmd.port?.map .bare else none

/-- Answers a request about what a switch does. -/
def answerControl (b : Bench) (r : Request) : Response × Bench :=
  match order? r with
  | none => (.invalid, b)
  | some order => match b.target r with
    | .error e => (.fault (.ofError e), b)
    | .ok id => match order with
      | .named c => b.control id c r.argument?
      | .bare port => respond (b.setPort id port)

/-- Answers a request; a search may take less than `limit` milliseconds. -/
def answer (limit : Nat) (b : Bench) (r : Request) : Response × Bench :=
  match r.category? with
  | some .device => b.answerDevice limit r
  | some .control => b.answerControl r
  | none => (.invalid, b)

end Bench

end SwitchBench
