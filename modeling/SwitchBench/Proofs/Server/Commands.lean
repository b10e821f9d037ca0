import SwitchBench.Server.Responder

/-! What a request comes to.

A request comes to one command to a switch, or to none (`Bench.command?`). In the first
case the server answers with the result of the command and keeps the bench that the
command leaves; in the second it keeps the bench as it is. -/
namespace SwitchBench

namespace Command

/-- Whether the command opens or closes a switch. -/
def isDevice : Command → Bool
  | connect .. | disconnect _ => true
  | port .. | speed .. | read .. => false

/-- The response that tells the result of the command. -/
def response (c : Command) (result : Except SwitchError String) : Response :=
  if c.isDevice then .ofOutcome result else .ofResult result

end Command

theorem Response.ofOutcome_map {α β : Type} (f : α → β) (r : Except SwitchError α) :
    Response.ofOutcome (r.map f) = Response.ofOutcome r := by
  cases r <;> rfl

/-- The command to a switch that is asked for by an order with its argument. -/
def Bench.Order.command? (id : SwitchId) (argument : Option (List Char)) : Order → Option Command
  | .bare port => some (.port id port)
  | .named .switch => (argument.bind Text.byte?).map (.port id)
  | .named .speed => (argument.bind Speed.ofWord?).map (.speed id)
  | .named .read => (argument.bind Parameter.ofWord?).map (.read id)
  | .named .status => some (.read id .status)
  | .named .volts => some (.read id .volts)
  | .named .amps => some (.read id .amps)

namespace Bench

/-- The command that a request about a device comes to. -/
def deviceCommand? (r : Request) : Option Command :=
  match r.cmd.name?.bind DeviceCommand.ofText?, r.switch? with
  | some .open', some id => some (.connect id (r.interface?.getD .serial) r.rate?)
  | some .close, some id => some (.disconnect id)
  | _, _ => none

/-- The command that a control request comes to. -/
def controlCommand? (b : Bench) (r : Request) : Option Command :=
  (order? r).bind fun order =>
    match b.target r with
    | .ok id => order.command? id r.argument?
    | .error _ => none

/-- The command that a request comes to. -/
def command? (b : Bench) (r : Request) : Option Command :=
  match r.category? with
  | some .device => deviceCommand? r
  | some .control => b.controlCommand? r
  | none => none

section
variable (b : Bench) {r : Request}

/-- A request about a device by its names. -/
theorem command?_of_device {k : DeviceCommand} (hctype : r.ctype = Category.device.name)
    (hcmd : r.cmd = .name k.name) : b.command? r =
      match k, r.switch? with
      | .open', some id => some (.connect id (r.interface?.getD .serial) r.rate?)
      | .close, some id => some (.disconnect id)
      | _, _ => none := by
  have hcategory : r.category? = some .device := by
    rw [Request.category?, hctype, Category.ofText?_name]
  have hcommand : r.cmd.name?.bind DeviceCommand.ofText? = some k := by
    rw [hcmd, CommandToken.name?, Option.bind_some, DeviceCommand.ofText?_name]
  cases k <;> cases hswitch : r.switch? <;>
    simp only [command?, hcategory, deviceCommand?, hcommand, hswitch]

/-- A control request by its names. -/
theorem command?_of_control {k : ControlCommand} (hctype : r.ctype = Category.control.name)
    (hcmd : r.cmd = .name k.name) : b.command? r =
      match b.target r with
      | .ok id => Order.command? id r.argument? (.named k)
      | .error _ => none := by
  have hcategory : r.category? = some .control := by
    rw [Request.category?, hctype, Category.ofText?_name]
  have horder : order? r = some (.named k) := by
    rw [order?, hcmd, CommandToken.name?, Option.bind_some, ControlCommand.ofText?_name]
  cases htarget : b.target r <;>
    simp only [command?, hcategory, controlCommand?, horder, Option.bind_some, htarget]

end

section
variable (limit : Nat) (b : Bench) {r : Request} {c : Command}

theorem answerDevice_of_command? (h : deviceCommand? r = some c) :
    b.answerDevice limit r = (c.response (b.perform c).1, (b.perform c).2) := by
  unfold deviceCommand? at h
  unfold answerDevice
  split at h
  next id hk hid =>
    cases h
    simp only [hk, hid, perform, Command.response, Command.isDevice, if_true, Response.ofOutcome_map]
  next id hk hid =>
    cases h
    simp only [hk, hid, perform, Command.response, Command.isDevice, if_true, Response.ofOutcome_map]
  next => cases h

theorem answerDevice_of_none (h : deviceCommand? r = none) : (b.answerDevice limit r).2 = b := by
  unfold deviceCommand? at h
  unfold answerDevice
  cases hk : r.cmd.name?.bind DeviceCommand.ofText? with
  | none => rfl
  | some k =>
    cases k with
    | search => rfl
    | open' | close =>
      cases hid : r.switch? with
      | none => rfl
      | some id => simp [hk, hid] at h

/-- A control command with an argument that makes sense is a command to the switch. -/
theorem control_of_command? {k : ControlCommand} {id : SwitchId} {argument : Option (List Char)}
    (h : Order.command? id argument (.named k) = some c) :
    b.control id k argument = (c.response (b.perform c).1, (b.perform c).2) := by
  cases k with
  | switch =>
    obtain ⟨n, hn, rfl⟩ := Option.map_eq_some_iff.mp h
    simp only [control, hn]
    rfl
  | speed =>
    obtain ⟨mode, hmode, rfl⟩ := Option.map_eq_some_iff.mp h
    simp only [control, hmode]
    rfl
  | read =>
    obtain ⟨p, hp, rfl⟩ := Option.map_eq_some_iff.mp h
    simp only [control, hp]
    rfl
  | status | volts | amps =>
    cases h
    rfl

theorem control_of_none {k : ControlCommand} {id : SwitchId} {argument : Option (List Char)}
    (h : Order.command? id argument (.named k) = none) : b.control id k argument = (.invalid, b) := by
  cases k with
  | switch | speed | read =>
    simp only [control, Option.map_eq_none_iff.mp h]
  | status | volts | amps => cases h

theorem answerControl_of_command? (h : b.controlCommand? r = some c) :
    b.answerControl r = (c.response (b.perform c).1, (b.perform c).2) := by
  obtain ⟨order, horder, h⟩ := Option.bind_eq_some_iff.mp h
  split at h
  next id hid =>
    simp only [answerControl, horder, hid]
    cases order with
    | named k => exact b.control_of_command? h
    | bare n =>
      cases h
      rfl
  next => cases h

theorem answerControl_of_none (h : b.controlCommand? r = none) : (b.answerControl r).2 = b := by
  unfold answerControl
  cases horder : order? r with
  | none => rfl
  | some order =>
    rw [controlCommand?, horder, Option.bind_some] at h
    cases hid : b.target r with
    | error e => rfl
    | ok id =>
      simp only [hid] at h
      cases order with
      | named k => simp only [b.control_of_none h]
      | bare n => cases h

/-- **What comes to a command is answered with its result**, -/
theorem answer_of_command? (h : b.command? r = some c) :
    b.answer limit r = (c.response (b.perform c).1, (b.perform c).2) := by
  cases hcategory : r.category? with
  | none => rw [command?, hcategory] at h; cases h
  | some k =>
    rw [command?, hcategory] at h
    rw [answer, hcategory]
    cases k with
    | device => exact answerDevice_of_command? limit b h
    | control => exact b.answerControl_of_command? h

/-- **and what comes to none leaves the bench as it is.** -/
theorem answer_of_none (h : b.command? r = none) : (b.answer limit r).2 = b := by
  cases hcategory : r.category? with
  | none => rw [answer, hcategory]
  | some k =>
    rw [command?, hcategory] at h
    rw [answer, hcategory]
    cases k with
    | device => exact answerDevice_of_none limit b h
    | control => exact b.answerControl_of_none h

end

end Bench

end SwitchBench
