import Mathlib.Data.List.Chain
import SwitchBench.Proofs.Server.Handling

/-! Opens and closes alternate.

A server that begins with no switch in use serves connections one after another, while switches
may begin or cease to answer. An open is acknowledged only for a switch that is not in use, and a
close only for one that is; nothing else takes a switch into use or gives it up, and nothing is
carried out on a switch that is not in use (`exchange_steps`). So the acknowledged opens and closes
of a switch alternate, and the last of them tells whether it is in use. -/
namespace SwitchBench

/-- What happens to a server. -/
inductive Occurrence where
  /-- A client sends bytes on a connection, and closes its side or not. -/
  | connection (ending : Ending) (bytes : List UInt8)
  /-- A switch begins or ceases to answer. -/
  | responsive (id : SwitchId) (on : Bool)

/-- A connection that was served: the request that it carried and the response, if any. -/
structure Exchange where
  request : Option Request
  response : Option Response

/-- An acknowledged open or close. -/
inductive Mark where
  | opened | closed
deriving DecidableEq

/-- The mark of a device command that is acknowledged. -/
def DeviceCommand.mark? : DeviceCommand → Option Mark
  | open' => some .opened
  | close => some .closed
  | search => none

/-- What a request about a device asks for on a switch that it names. -/
def Request.deviceCommandOn? (r : Request) (id : SwitchId) : Option DeviceCommand :=
  if r.category? = some .device ∧ r.switch? = some id then r.cmd.name?.bind DeviceCommand.ofText? else none

namespace Exchange

/-- The text that was answered. -/
def text? (x : Exchange) : Option String := x.response.bind Response.text?

/-- The open or close of a switch that was acknowledged. -/
def mark? (id : SwitchId) (x : Exchange) : Option Mark :=
  if x.text? = some acknowledgement then (x.request.bind (·.deviceCommandOn? id)).bind DeviceCommand.mark? else none

/-- A control request that names a switch was answered with a text, and not as invalid. -/
def Commands (id : SwitchId) (x : Exchange) : Prop :=
  ∃ r t, x.request = some r ∧ r.category? = some .control ∧ r.switch? = some id ∧ x.text? = some t ∧
    t ≠ "Invalid command"

end Exchange

/-- The acknowledged opens and closes of a switch. -/
def marks (id : SwitchId) (xs : List Exchange) : List Mark := xs.filterMap (·.mark? id)

namespace Bench

/-- A connection that is served. -/
def exchange (limit : Nat) (b : Bench) (ending : Ending) (bytes : List UInt8) : Exchange :=
  ⟨(Request.read ending bytes).toOption.join, (b.serve limit ending bytes).1⟩

/-- What a server serves, one connection after another, and the bench after it. -/
def serveAll (limit : Nat) (b : Bench) : List Occurrence → List Exchange × Bench
  | [] => ([], b)
  | .connection ending bytes :: rest =>
    let (xs, after) := serveAll limit (b.serve limit ending bytes).2 rest
    (b.exchange limit ending bytes :: xs, after)
  | .responsive id on :: rest => serveAll limit (b.setResponsive id on) rest

/-- The mark that a switch bears: whether it is in use. -/
def standing (b : Bench) (id : SwitchId) : Mark := if b.isConnected id then .opened else .closed

/-! ### Commands -/

section
variable {b : Bench} {id : SwitchId}

theorem standing_eq_opened_iff : b.standing id = .opened ↔ b.isConnected id = true := by
  unfold standing
  split <;> simp_all

theorem standing_eq_closed_iff : b.standing id = .closed ↔ b.isConnected id = false := by
  unfold standing
  split <;> simp_all

/-- An open succeeds only on a switch that is not in use, and takes it into use. -/
theorem standing_connect {m : Model} (h : (b.connect id).1 = .ok m) :
    b.standing id = .closed ∧ (b.connect id).2.standing id = .opened := by
  rw [standing_eq_closed_iff, standing_eq_opened_iff]
  rw [connect_eq] at h ⊢
  cases hconnected : b.isConnected id with
  | true => simp [hconnected] at h
  | false =>
    cases hfound : b.bus.found? id with
    | none => simp [hconnected, hfound] at h
    | some s => cases hr : s.responsive <;> simp_all [isConnected, Roster.contains]

/-- A close succeeds only on a switch that is in use, and gives it up. -/
theorem standing_disconnect (h : (b.disconnect id).1 = .ok ()) :
    b.standing id = .opened ∧ (b.disconnect id).2.standing id = .closed := by
  rw [standing_eq_closed_iff, standing_eq_opened_iff]
  rw [disconnect_eq] at h ⊢
  cases hconnected : b.isConnected id with
  | false => simp [hconnected] at h
  | true => simp [isConnected, Roster.contains, Roster.get?_erase]

/-- An order is carried out only on a switch that is in use, and leaves it in use. -/
theorem standing_command {α : Type} {refuse : Model → Option SwitchError} {act : Snapshot → α × Snapshot} :
    (b.command id refuse act).2.handles = b.handles ∧
      ∀ a, (b.command id refuse act).1 = .ok a → b.standing id = .opened := by
  rcases b.command_cases id refuse act with ⟨e, h⟩ | ⟨m, s, hm, -, -, h⟩
  · rw [h]
    exact ⟨rfl, fun a ha => by cases ha⟩
  · rw [h, standing_eq_opened_iff]
    exact ⟨rfl, fun _ _ => by rw [isConnected, Roster.contains, hm]; rfl⟩

end

/-! ### Requests -/

/-- A request that comes to an open or a close asks for it on the switch that it names; any other
that comes to a command is a control request. -/
theorem command?_inv {b : Bench} {r : Request} {c : Command} (h : b.command? r = some c) :
    (∃ id via baud, c = .connect id via baud ∧ r.category? = some .device ∧ r.switch? = some id ∧
        r.cmd.name?.bind DeviceCommand.ofText? = some .open') ∨
      (∃ id, c = .disconnect id ∧ r.category? = some .device ∧ r.switch? = some id ∧
        r.cmd.name?.bind DeviceCommand.ofText? = some .close) ∨
      (c.isDevice = false ∧ r.category? = some .control) := by
  unfold command? at h
  split at h
  next hcategory =>
    unfold deviceCommand? at h
    split at h
    next id hcmd hid => cases h; exact .inl ⟨id, _, _, rfl, hcategory, hid, hcmd⟩
    next id hcmd hid => cases h; exact .inr (.inl ⟨id, rfl, hcategory, hid, hcmd⟩)
    next => cases h
  next hcategory =>
    obtain ⟨order, -, horder⟩ := Option.bind_eq_some_iff.mp h
    refine .inr (.inr ⟨?_, hcategory⟩)
    split at horder
    next id _ =>
      cases order with
      | bare n => cases horder; rfl
      | named k =>
        cases k with
        | switch | speed | read =>
          obtain ⟨_, -, rfl⟩ := Option.map_eq_some_iff.mp horder
          rfl
        | status | volts | amps => cases horder; rfl
    next => cases horder
  next => cases h

/-- A control request that names a switch is about that switch. -/
theorem isAbout_of_control {r : Request} {id : SwitchId} (hcategory : r.category? = some .control)
    (hid : r.switch? = some id) : r.IsAbout (· = id) := by
  refine ⟨⟨id, hid, rfl⟩, fun hsearch => ?_⟩
  have hdevice := hsearch.1
  rw [hcategory] at hdevice
  cases hdevice

/-- What a connection does to a switch: an acknowledged open or close is the opposite of how it
stood and how it stands then, anything else leaves it as it stood, and commands are carried out
on it only while it is in use. -/
structure Steps (id : SwitchId) (b : Bench) (x : Exchange) (after : Bench) : Prop where
  marked : ∀ m, x.mark? id = some m → b.standing id ≠ m ∧ after.standing id = m
  unmarked : x.mark? id = none → after.standing id = b.standing id
  commands : x.Commands id → b.standing id = .opened

section
variable (limit : Nat) (b : Bench) (id : SwitchId) {r : Request}

/-- What leaves everything as it was and acknowledges and carries out nothing. -/
theorem Steps.unchanged {x : Exchange} (hmark : x.mark? id = none) (hcommands : ¬ x.Commands id) :
    Steps id b x b :=
  ⟨fun m hm => (by rw [hmark] at hm; cases hm), fun _ => rfl, fun h => absurd h hcommands⟩

/-- A request that comes to the open or the close of a switch. -/
theorem Steps.device {c : Command} {k : DeviceCommand} {m : Mark} (hcategory : r.category? = some .device)
    (hid : r.switch? = some c.id) (hcmd : r.cmd.name?.bind DeviceCommand.ofText? = some k)
    (hmark : k.mark? = some m) (hdevice : c.isDevice = true)
    (hok : ∀ t, (b.perform c).1 = .ok t → b.standing c.id ≠ m ∧ (b.perform c).2.standing c.id = m) :
    Steps id b ⟨some r, some (c.response (b.perform c).1)⟩ (b.perform c).2 := by
  have hcommands : ∀ response, ¬ Exchange.Commands id ⟨some r, response⟩ := by
    rintro response ⟨r', t, hr, hcontrol, -⟩
    cases hr
    rw [hcategory] at hcontrol
    cases hcontrol
  cases hresult : (b.perform c).1 with
  | error e =>
    rw [perform_error hresult, Command.response, if_pos hdevice]
    exact .unchanged b id (if_neg fun hfail => absurd (Option.some.inj hfail) (by decide)) (hcommands _)
  | ok t =>
    have hmarked : Exchange.mark? id ⟨some r, some (c.response (.ok t))⟩ =
        if c.id = id then some m else none := by
      rw [Exchange.mark?, if_pos (by rw [Command.response, if_pos hdevice]; rfl), Option.bind_some,
        Request.deviceCommandOn?]
      simp only [hcategory, hid, hcmd, true_and, Option.some.injEq]
      split
      · exact hmark
      · rfl
    refine ⟨fun m' hm' => ?_, fun hnone => ?_, fun h => absurd h (hcommands _)⟩
    · rw [hmarked] at hm'
      split at hm'
      next heq => cases hm'; cases heq; exact hok t hresult
      next => cases hm'
    · rw [hmarked] at hnone
      split at hnone
      next => cases hnone
      next hne =>
        have hspared := ((Within.perform (S := (· = c.id)) rfl).spares b).isConnected (Ne.symm hne)
        rw [standing, standing, hspared]

/-- A control request that comes to a command. -/
theorem Steps.control {c : Command} (hcategory : r.category? = some .control) (hdevice : c.isDevice = false)
    (hid : ∀ k, r.switch? = some k → c.id = k) :
    Steps id b ⟨some r, some (c.response (b.perform c).1)⟩ (b.perform c).2 := by
  have hmark : ∀ response, Exchange.mark? id ⟨some r, response⟩ = none := by
    intro response
    have hnone : r.deviceCommandOn? id = none := if_neg fun h => by rw [hcategory] at h; cases h.1
    rw [Exchange.mark?, Option.bind_some, hnone]
    split <;> rfl
  have hcommand : (b.perform c).2.handles = b.handles ∧
      ∀ t, (b.perform c).1 = .ok t → b.standing c.id = .opened := by
    cases c with
    | connect _ _ _ | disconnect _ => cases hdevice
    | port _ _ | speed _ _ | read _ _ => exact standing_command
  refine ⟨fun m hm => ?_, fun _ => ?_, ?_⟩
  · rw [hmark] at hm
    cases hm
  · rw [standing, standing, isConnected, isConnected, hcommand.1]
  · rintro ⟨r', t, hr, -, hr', ht, -⟩
    cases hr
    rw [← hid id hr']
    cases hresult : (b.perform c).1 with
    | error e =>
      -- An error is no text.
      rw [Command.response, hresult, hdevice] at ht
      cases ht
    | ok t => exact hcommand.2 t hresult

/-- A request that comes to no command. -/
theorem Steps.of_none (h : b.command? r = none) :
    Steps id b ⟨some r, some (b.answer limit r).1⟩ (b.answer limit r).2 := by
  rw [b.answer_of_none limit h]
  refine .unchanged b id ?_ ?_
  · have hnone : (r.deviceCommandOn? id).bind DeviceCommand.mark? = none := by
      unfold Request.deviceCommandOn?
      split
      next hr =>
        rw [command?, hr.1] at h
        simp only [deviceCommand?, hr.2] at h
        cases hcmd : r.cmd.name?.bind DeviceCommand.ofText? with
        | none => rfl
        | some k =>
          rw [hcmd] at h
          cases k with
          | search => rfl
          | open' | close => cases h
      next => rfl
    rw [Exchange.mark?, Option.bind_some, hnone]
    split <;> rfl
  · rintro ⟨r', t, hr, hcategory, hid, ht, hvalid⟩
    cases hr
    rw [(isAbout_of_control hcategory hid).answer_of_none limit h] at ht
    cases ht
    exact hvalid rfl

/-- **A request steps as its mark says.** -/
theorem answer_steps (r : Request) : Steps id b ⟨some r, some (b.answer limit r).1⟩ (b.answer limit r).2 := by
  cases h : b.command? r with
  | none => exact .of_none limit b id h
  | some c =>
    rw [b.answer_of_command? limit h]
    rcases command?_inv h with ⟨k, via, baud, rfl, hcategory, hid, hcmd⟩ | ⟨k, rfl, hcategory, hid, hcmd⟩ |
      ⟨hdevice, hcategory⟩
    · refine .device (c := .connect k via baud) b id hcategory hid hcmd rfl rfl fun t ht => ?_
      cases hm : (b.connect k).1 with
      | error e => simp [perform, hm, Except.map] at ht
      | ok m =>
        obtain ⟨hbefore, hafter⟩ := standing_connect hm
        exact ⟨by rw [Command.id, hbefore]; decide, hafter⟩
    · refine .device (c := .disconnect k) b id hcategory hid hcmd rfl rfl fun t ht => ?_
      cases hm : (b.disconnect k).1 with
      | error e => simp [perform, hm, Except.map] at ht
      | ok =>
        obtain ⟨hbefore, hafter⟩ := standing_disconnect hm
        exact ⟨by rw [Command.id, hbefore]; decide, hafter⟩
    · refine .control b id hcategory hdevice fun k hk => ?_
      exact (isAbout_of_control hcategory hk).id_of_command? h

/-- **A connection steps as its mark says**, whatever bytes it brings. -/
theorem exchange_steps (ending : Ending) (bytes : List UInt8) :
    Steps id b (b.exchange limit ending bytes) (b.serve limit ending bytes).2 := by
  have hquiet : ∀ response, Steps id b ⟨Option.none, response⟩ b := fun response =>
    .unchanged b id (by rw [Exchange.mark?]; split <;> rfl) (by rintro ⟨r, t, hr, -⟩; cases hr)
  unfold exchange serve
  rcases Request.read ending bytes with ⟨_ | _ | _⟩ | ⟨_ | r⟩
  · exact hquiet _
  · exact hquiet _
  · exact hquiet _
  · exact hquiet _
  · exact answer_steps limit b id r

end

/-! ### All that is served -/

/-- What connections do to a switch, one after another: the acknowledged opens and closes alternate
from how it stood to how it stands then, and commands are carried out on it only after an open. -/
structure Alternates (id : SwitchId) (b : Bench) (xs : List Exchange) (after : Bench) : Prop where
  chain : (b.standing id :: marks id xs).IsChain (· ≠ ·)
  last : (b.standing id :: marks id xs).getLast? = some (after.standing id)
  commands : ∀ before x rest, xs = before ++ x :: rest → x.Commands id →
    (b.standing id :: marks id before).getLast? = some .opened

namespace Alternates

variable {id : SwitchId} {a b c : Bench} {x : Exchange} {xs : List Exchange}

theorem nil : Alternates id b [] b :=
  ⟨.singleton _, rfl, fun before x rest h => by cases before <;> cases h⟩

/-- A connection in front of others. -/
theorem cons (hx : Steps id a x b) (hxs : Alternates id b xs c) : Alternates id a (x :: xs) c := by
  -- An acknowledged connection puts how the switch stands then among the marks; any other does nothing.
  have hmarks : ∀ ys, (a.standing id :: marks id (x :: ys) = a.standing id :: b.standing id :: marks id ys ∧
        a.standing id ≠ b.standing id) ∨
      a.standing id :: marks id (x :: ys) = b.standing id :: marks id ys := by
    intro ys
    cases hmark : x.mark? id with
    | some m =>
      obtain ⟨hbefore, hafter⟩ := hx.marked m hmark
      exact .inl ⟨by rw [marks, List.filterMap_cons_some hmark, hafter]; rfl, hafter ▸ hbefore⟩
    | none => exact .inr (by rw [marks, List.filterMap_cons_none hmark, hx.unmarked hmark]; rfl)
  have hlast : ∀ ys, (a.standing id :: marks id (x :: ys)).getLast? = (b.standing id :: marks id ys).getLast? := by
    intro ys
    rcases hmarks ys with ⟨h, -⟩ | h
    · rw [h, List.getLast?_cons_cons]
    · rw [h]
  refine ⟨?_, (hlast xs).trans hxs.last, ?_⟩
  · rcases hmarks xs with ⟨h, hne⟩ | h
    · rw [h]
      exact List.isChain_cons_cons.mpr ⟨hne, hxs.chain⟩
    · rw [h]
      exact hxs.chain
  · rintro (_ | ⟨y, before⟩) z rest h hz
    · cases h
      rw [hx.commands hz]
      rfl
    · cases h
      rw [hlast]
      exact hxs.commands before z rest rfl hz

end Alternates

/-- **What is served alternates**, from whatever bench. -/
theorem serveAll_alternates (limit : Nat) (id : SwitchId) (os : List Occurrence) (b : Bench) :
    Alternates id b (b.serveAll limit os).1 (b.serveAll limit os).2 := by
  induction os generalizing b with
  | nil => exact .nil
  | cons o rest ih =>
    cases o with
    | connection ending bytes => exact (ih _).cons (exchange_steps limit b id ending bytes)
    | responsive k on =>
      -- The handles are as they were, and with them how the switch stands.
      obtain ⟨hchain, hlast, hcommands⟩ := ih (b.setResponsive k on)
      exact ⟨hchain, hlast, hcommands⟩

/-- **Opens and closes alternate.** Of all that a server serves that begins with no switch in use,
whatever the switches do meanwhile, the acknowledged opens and closes of a switch take turns, and
the first of them is an open. The last of them tells whether the switch is in use, and it is an open
whenever a control request that names the switch is carried out. -/
theorem opens_and_closes_alternate (bus : Bus) (limit : Nat) (os : List Occurrence) (id : SwitchId) :
    let xs := ((idle bus).serveAll limit os).1
    let after := ((idle bus).serveAll limit os).2
    (marks id xs).IsChain (· ≠ ·) ∧ (marks id xs).head? ≠ some .closed ∧
      (after.isConnected id = true ↔ (marks id xs).getLast? = some .opened) ∧
      ∀ before x rest, xs = before ++ x :: rest → x.Commands id → (marks id before).getLast? = some .opened := by
  intro xs after
  obtain ⟨hchain, hlast, hcommands⟩ := serveAll_alternates limit id os (idle bus)
  have hidle : (idle bus).standing id = .closed := rfl
  rw [hidle] at hchain hlast hcommands
  -- Of marks behind a close the last is an open only if it is one of them.
  have hopened : ∀ ms : List Mark, (Mark.closed :: ms).getLast? = some .opened ↔ ms.getLast? = some .opened := by
    intro ms
    rw [List.getLast?_cons]
    cases ms.getLast? <;> simp
  obtain ⟨hhead, hrest⟩ := List.isChain_cons.mp hchain
  refine ⟨hrest, fun h => hhead _ h rfl, ?_,
    fun before x rest h hx => (hopened _).mp (hcommands before x rest h hx)⟩
  rw [← standing_eq_opened_iff, ← hopened, hlast, Option.some.injEq]

/-- A switch does not answer at first and is not opened; then it is opened, set and closed. -/
theorem opens_and_closes_alternate_com7 :
    let id : SwitchId := ⟨"COM7"⟩
    let connection (r : Request) : Occurrence := .connection .closes r.bytes
    let openIt := connection ((Request.device .open').naming "COM7")
    let r := ((Request.control .serial .switch).naming "COM7").saying "2"
    let closeIt := connection ((Request.device .close).naming "COM7")
    let xs := ((idle (.listed [(id, .m3141)])).serveAll 5000
      [.responsive id false, openIt, .responsive id true, openIt, connection r, closeIt]).1
    ∃ x, xs[2]? = some x ∧ x.Commands id ∧ marks id xs = [.opened, .closed] ∧
      (marks id xs).IsChain (· ≠ ·) ∧ (marks id (xs.take 2)).getLast? = some .opened := by
  intro id connection openIt r closeIt xs
  obtain ⟨hchain, -, -, hcommands⟩ := opens_and_closes_alternate (.listed [(id, .m3141)]) 5000
    [.responsive id false, openIt, .responsive id true, openIt, connection r, closeIt] id
  have hrequest : xs[2]?.bind (·.request) = some r := by decide
  have htext : xs[2]?.bind Exchange.text? = some acknowledgement := by decide
  obtain ⟨x, hx, hr⟩ := Option.bind_eq_some_iff.mp hrequest
  rw [hx, Option.bind_some] at htext
  have hcommand : x.Commands id := ⟨r, acknowledgement, hr, by decide, by decide, htext, by decide⟩
  obtain ⟨hlength, rfl⟩ := List.getElem?_eq_some_iff.mp hx
  have hxs : xs = xs.take 2 ++ xs[2] :: xs.drop 3 := by rw [List.getElem_cons_drop, List.take_append_drop]
  exact ⟨_, hx, hcommand, by decide, hchain, hcommands _ _ _ hxs hcommand⟩

end Bench

end SwitchBench
