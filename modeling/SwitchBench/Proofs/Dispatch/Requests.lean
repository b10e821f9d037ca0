import SwitchBench.Proofs.Server.Commands
import SwitchBench.Proofs.Switch.Names
import SwitchBench.Proofs.Text.Numerals

/-! What a server makes of the request of a command.

The fields of a request are words that the server reads again, whatever their case and
the blanks around them. The request of a command comes to that command, and the
response tells its result. -/
namespace SwitchBench

/-- An identifier as the server keeps it: not empty, and without blanks at its ends. -/
structure SwitchId.Proper (id : SwitchId) : Prop where
  text_ne : id.text ≠ ""
  trimmed : ofText id.text = id

/-! ### Fields -/

namespace Request

theorem switch?_of_proper {id : SwitchId} (h : id.Proper) {r : Request}
    (hr : r.port = some id.text) : r.switch? = some id := by
  simp [switch?, hr, h.trimmed, h.text_ne]

/-- An argument without blanks at its ends is read as it is. -/
theorem argument?_of_trimmed {r : Request} {s : String} (hr : r.stat = some s)
    (hs : Text.Trimmed s.toList) : r.argument? = some s.toList := by
  simp [argument?, hr, hs.trim_eq]

/-- The speed of a line is read as it was written. -/
theorem rate?_of_decimal {r : Request} {n : UInt32}
    (hr : r.baud = some (String.ofList (Text.decimal n.toNat))) : r.rate? = some n := by
  simp [rate?, hr, (Text.decimal_solid n.toNat).trimmed.trim_eq, Text.word32?_decimal]

end Request

theorem Command.request_port (c : Command) : c.request.port = some c.id.text := by
  cases c with
  | connect id via baud => cases baud <;> rfl
  | disconnect _ | port _ _ | speed _ _ | read _ _ => rfl

/-! ### Requests -/

namespace Bench

/-- **The request of a command comes to the command.** -/
theorem command?_request {c : Command} (hid : c.id.Proper) (b : Bench) :
    b.command? c.request = some c := by
  have hswitch : c.request.switch? = some c.id := Request.switch?_of_proper hid c.request_port
  have htarget : b.target c.request = .ok c.id := by
    unfold target
    rw [hswitch]
  cases c with
  | connect id via baud =>
    have hvia : (Command.connect id via baud).request.interface? = some via := by
      cases baud <;> exact Interface.ofText?_name via
    have hrate : (Command.connect id via baud).request.rate? = baud := by
      cases baud with
      | none => rfl
      | some n => exact Request.rate?_of_decimal rfl
    rw [b.command?_of_device (k := .open') (by cases baud <;> rfl) (by cases baud <;> rfl), hswitch, hvia,
      hrate]
    rfl
  | disconnect id =>
    rw [b.command?_of_device (k := .close) rfl rfl, hswitch]
    rfl
  | port id n =>
    have htrimmed : Text.Trimmed (String.ofList (Text.decimal n.toNat)).toList := by
      rw [String.toList_ofList]
      exact (Text.decimal_solid n.toNat).trimmed
    rw [b.command?_of_control (k := .switch) rfl rfl, htarget, Request.argument?_of_trimmed rfl htrimmed,
      String.toList_ofList]
    simp only [Order.command?, Option.bind_some, Text.byte?_decimal]
    rfl
  | speed id mode =>
    rw [b.command?_of_control (k := .speed) rfl rfl, htarget,
      Request.argument?_of_trimmed rfl mode.name_solid.trimmed]
    simp only [Order.command?, Option.bind_some, Speed.ofWord?_name]
    rfl
  | read id p =>
    rw [b.command?_of_control (k := Command.reading p) rfl rfl, htarget,
      Request.argument?_of_trimmed rfl p.name_solid.trimmed]
    cases p with
    | status | volts | amps => rfl
    | version =>
      simp only [Command.reading, Order.command?, Option.bind_some, Parameter.ofWord?_name]
      rfl

/-- **The request of a command is answered with the result of the command**, and leaves
the bench as the command does. -/
theorem answer_request {c : Command} (hid : c.id.Proper) (limit : Nat) (b : Bench) :
    b.answer limit c.request = (c.response (b.perform c).1, (b.perform c).2) :=
  b.answer_of_command? limit (command?_request hid b)

end Bench

end SwitchBench
