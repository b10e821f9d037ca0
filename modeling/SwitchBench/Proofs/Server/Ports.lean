import SwitchBench.Proofs.Server.Failures

/-! What leaves ports alone.

Setting a speed and reading change no port, neither on the bench at hand nor by way of a
server, however much of the request the server gets to see. -/
namespace SwitchBench

namespace Command

/-- A command that sets a speed or reads. -/
def sparesPorts : Command → Bool
  | speed .. | read .. => true
  | connect .. | disconnect _ | port .. => false

/-- The control command that it is put to a server as. -/
theorem cmd_of_sparesPorts {c : Command} (h : c.sparesPorts = true) :
    ∃ k : ControlCommand, k ≠ .switch ∧ c.request.ctype = Category.control.name ∧
      c.request.cmd = .name k.name := by
  cases c with
  | speed id mode => exact ⟨.speed, by decide, rfl, rfl⟩
  | read id p => exact ⟨reading p, by cases p <;> decide, rfl, rfl⟩
  | connect _ _ _ | disconnect _ | port _ _ => cases h

/-- Its request is not that of a port command. -/
theorem request_ne_port {c : Command} (h : c.sparesPorts = true) (id : SwitchId) (n : UInt8) :
    c.request ≠ (port id n).request := by
  intro heq
  obtain ⟨k, hk, -, hcmd⟩ := cmd_of_sparesPorts h
  have hname : CommandToken.name k.name = .name ControlCommand.switch.name := by rw [← hcmd, heq]; rfl
  cases k with
  | switch => exact hk rfl
  | _ => exact absurd hname (by decide)

end Command

namespace Bench
variable (b : Bench)

/-- The port that a known switch is set to. -/
def port? (id : SwitchId) : Option UInt8 := (b.bus.snapshot? id).map (·.port)

/-- A switch that keeps its port when it is commanded leaves all ports as they are. -/
theorem command_port? {α : Type} (id : SwitchId) (refuse : Model → Option SwitchError)
    {act : Snapshot → α × Snapshot} (hact : ∀ s, (act s).2.port = s.port) (k : SwitchId) :
    (b.command id refuse act).2.port? k = b.port? k := by
  rcases b.command_cases id refuse act with ⟨e, h⟩ | ⟨m, s, -, hs, -, h⟩
  · rw [h]
  · rw [h, port?, port?, Bus.snapshot?_set]
    split
    next hk => rw [hk, hs, Option.map_some, Option.map_some, hact]
    next => rfl

theorem perform_port? {c : Command} (h : c.sparesPorts = true) (k : SwitchId) :
    (b.perform c).2.port? k = b.port? k := by
  cases c with
  | speed id mode => exact b.command_port? id _ (fun _ => rfl) k
  | read id p => exact b.command_port? id _ (fun _ => rfl) k
  | connect _ _ _ | disconnect _ | port _ _ => cases h

/-- An order that is not for a port is no port command. -/
theorem sparesPorts_of_order {k : ControlCommand} (hk : k ≠ .switch) {id : SwitchId}
    {argument : Option (List Char)} {d : Command} (h : Order.command? id argument (.named k) = some d) :
    d.sparesPorts = true := by
  cases k with
  | switch => exact absurd rfl hk
  | speed | read =>
    obtain ⟨_, -, rfl⟩ := Option.map_eq_some_iff.mp h
    rfl
  | status | volts | amps => cases h; rfl

/-- The request of such a command comes to such a command, if to any. -/
theorem sparesPorts_of_command? {c d : Command} (h : c.sparesPorts = true)
    (hd : b.command? c.request = some d) : d.sparesPorts = true := by
  obtain ⟨k, hk, hctype, hcmd⟩ := Command.cmd_of_sparesPorts h
  rw [b.command?_of_control hctype hcmd] at hd
  split at hd
  next => exact sparesPorts_of_order hk hd
  next => cases hd

/-- **A server to which such a request is sent** changes no port, even if the request is
cut off. -/
theorem serve_port? {c : Command} (h : c.sparesPorts = true) {front : List UInt8}
    (hfront : front <+: c.request.bytes) (limit : Nat) (ending : Ending) (k : SwitchId) :
    (b.serve limit ending front).2.port? k = b.port? k := by
  rw [serve_snd]
  split
  next r hread =>
    rw [Request.eq_of_read_prefix hfront hread]
    cases hd : b.command? c.request with
    | none => rw [b.answer_of_none limit hd]
    | some d =>
      rw [b.answer_of_command? limit hd]
      exact b.perform_port? (b.sparesPorts_of_command? h hd) k
  next => rfl

end Bench

end SwitchBench
