import SwitchBench.Proofs.Switch.Consistency
import SwitchBench.Proofs.Switch.Orders

/-! What a switch remembers.

A switch is set to the port and the speed that it was last told, and tells them when it is
read. Whatever else happens does not count: a command that fails, a command to another
switch, giving up the handle and taking it again, falling silent. So what is read is a
matter of the commands that were acknowledged (`Bench.acknowledged`). -/
namespace SwitchBench

namespace Command

/-- The port that the command sets a switch to. -/
def portFor? (id : SwitchId) : Command → Option UInt8
  | port k n => if k = id then some n else none
  | _ => none

/-- The speed that the command selects on a switch. -/
def speedFor? (id : SwitchId) : Command → Option Speed
  | speed k mode => if k = id then some mode else none
  | _ => none

/-- The setting of a switch once the command has been acknowledged. -/
def applied (id : SwitchId) (x : UInt8 × Speed) (c : Command) : UInt8 × Speed :=
  ((c.portFor? id).getD x.1, (c.speedFor? id).getD x.2)

/-- A command to another switch leaves the setting. -/
theorem applied_of_ne {c : Command} {id : SwitchId} (h : c.id ≠ id) (x : UInt8 × Speed) :
    c.applied id x = x := by
  cases c with
  | port k n => rw [applied, portFor?, if_neg (show ¬k = id from h)]; rfl
  | speed k mode => rw [applied, speedFor?, if_neg (show ¬k = id from h)]; rfl
  | connect _ _ _ | disconnect _ | read _ _ => rfl

/-- Of many commands the latest of its kind counts. -/
theorem foldl_applied (id : SwitchId) (cs : List Command) (x : UInt8 × Speed) :
    cs.foldl (applied id) x =
      ((cs.filterMap (portFor? id)).getLast?.getD x.1, (cs.filterMap (speedFor? id)).getLast?.getD x.2) := by
  induction cs generalizing x with
  | nil => rfl
  | cons c rest ih =>
    rw [List.foldl_cons, ih]
    cases hport : c.portFor? id <;> cases hspeed : c.speedFor? id <;>
      simp [applied, hport, hspeed, List.getLast?_cons]

end Command

namespace Bench

/-- The command that an operation carries out with success. -/
def Operation.acknowledged? (b : Bench) : Operation → Option Command
  | .command c => if (b.perform c).1.isOk then some c else none
  | .discover | .setResponsive .. => none

/-- The commands that operations carry out with success, in their order. -/
def acknowledged (b : Bench) : List Operation → List Command
  | [] => []
  | o :: rest => (o.acknowledged? b).toList ++ acknowledged (b.operate o).2 rest

/-- The port and the speed that a switch is set to. One that is not known is as it comes. -/
def setting (b : Bench) (id : SwitchId) : UInt8 × Speed :=
  ((b.bus.snapshot? id).map fun s => (s.port, s.speed)).getD (0, .ss1)

section
variable (b : Bench) (k : SwitchId)

theorem setting_of_snapshot? {b : Bench} {k : SwitchId} {s : Snapshot} (h : b.bus.snapshot? k = some s) :
    b.setting k = (s.port, s.speed) := by
  rw [setting, h]
  rfl

/-- What is there to be opened is set as before. -/
theorem setting_of_found? {b : Bench} {id : SwitchId} {s : Snapshot} (h : b.bus.found? id = some s) :
    b.setting id = (s.port, s.speed) := by
  rcases Option.or_eq_some_iff.mp h with hknown | ⟨hunknown, hnew⟩
  · exact setting_of_snapshot? hknown
  · obtain ⟨m, -, rfl⟩ := Option.map_eq_some_iff.mp hnew
    rw [setting, hunknown]
    rfl

theorem setting_update (id : SwitchId) {f : Snapshot → Snapshot}
    (hf : ∀ s, (f s).port = s.port ∧ (f s).speed = s.speed) (handles : Roster Model) :
    setting ⟨b.bus.update id f, handles⟩ k = b.setting k := by
  unfold setting
  dsimp only
  rw [Bus.snapshot?_update]
  split
  next heq =>
    subst heq
    rw [Option.map_map]
    congr 2
    funext s
    exact Prod.ext (hf s).1 (hf s).2
  next => rfl

theorem setting_connect (id : SwitchId) : (b.connect id).2.setting k = b.setting k := by
  rw [connect_eq]
  split
  · rfl
  · split
    · rfl
    next s hs =>
      split
      · unfold setting
        dsimp only
        rw [Bus.snapshot?_set]
        split
        next heq => rw [heq]; exact (setting_of_found? hs).symm
        next => rfl
      · rfl

theorem setting_disconnect (id : SwitchId) : (b.disconnect id).2.setting k = b.setting k := by
  rw [disconnect_eq]
  split
  · exact b.setting_update k id (f := fun s => { s with isOpen := false }) (fun _ => ⟨rfl, rfl⟩) _
  · rfl

/-- An order that was carried out has set the switch as it says. -/
theorem setting_order {c : Command} (h : c.isDevice = false) (hok : (b.perform c).1.isOk = true) :
    (b.perform c).2.setting k = c.applied k (b.setting k) := by
  rw [b.perform_order h] at hok ⊢
  rcases b.command_cases c.id c.refusal? c.act with ⟨e, hfail⟩ | ⟨m, s, -, hs, -, hdone⟩
  · rw [hfail] at hok
    cases hok
  · rw [hdone]
    unfold setting
    dsimp only
    rw [Bus.snapshot?_set]
    by_cases hk : k = c.id
    · subst hk
      rw [if_pos rfl, hs]
      cases c <;> simp [Command.act, Command.applied, Command.portFor?, Command.speedFor?, Command.id]
    · rw [if_neg hk, Command.applied_of_ne (Ne.symm hk)]

/-- **One operation**: a switch is set as before, unless a command to it is acknowledged. -/
theorem setting_operate (o : Operation) : (b.operate o).2.setting k =
    (o.acknowledged? b).toList.foldl (Command.applied k) (b.setting k) := by
  cases o with
  | discover => rfl
  | setResponsive id on =>
    exact b.setting_update k id (f := fun s => { s with responsive := on }) (fun _ => ⟨rfl, rfl⟩) _
  | command c =>
    show (b.perform c).2.setting k = _
    cases hok : (b.perform c).1.isOk with
    | false =>
      obtain ⟨e, he⟩ : ∃ e, (b.perform c).1 = .error e := by
        cases hresult : (b.perform c).1 with
        | error e => exact ⟨e, rfl⟩
        | ok t => rw [hresult] at hok; cases hok
      rw [perform_error he]
      simp [Operation.acknowledged?, hok]
    | true =>
      rw [Operation.acknowledged?, if_pos hok]
      show _ = c.applied k (b.setting k)
      cases c with
      | connect id via baud => exact b.setting_connect k id
      | disconnect id => exact b.setting_disconnect k id
      | port _ _ | speed _ _ | read _ _ => exact b.setting_order k rfl hok

/-- **A whole history**: only the commands that were acknowledged count. -/
theorem setting_run (os : List Operation) :
    (b.run os).setting k = (b.acknowledged os).foldl (Command.applied k) (b.setting k) := by
  induction os generalizing b with
  | nil => rfl
  | cons o rest ih =>
    show ((b.operate o).2.run rest).setting k = _
    rw [ih, b.setting_operate k o, acknowledged, List.foldl_append]

end

/-- On a bus on which nothing has been done every switch is as it comes. -/
theorem setting_idle {bus : Bus} (h : bus.Untouched) (id : SwitchId) :
    (idle bus).setting id = (0, .ss1) := by
  cases h with
  | permissive model => rfl
  | listed models =>
    cases hs : (Bus.listed models).snapshot? id with
    | none => simp only [setting, idle, hs, Option.map_none, Option.getD_none]
    | some s =>
      obtain ⟨e, -, he⟩ := List.mem_map.mp (Roster.mem_of_get?_ofList hs)
      have hfresh : s = .fresh e.2 := (congrArg Prod.snd he).symm
      rw [setting_of_snapshot? (b := idle (.listed models)) hs, hfresh]
      rfl

/-- **A reading tells the latest settings that were acknowledged**, whatever else has been
done with the bench. A switch that is in use and answers tells the port that it was last
set to with success, and none if there was no such port; and so for the speed. A model with
meters reads a voltage and a current exactly if that port is not 0. -/
theorem read_run {bus : Bus} (h : bus.Untouched) (os : List Operation) {id : SwitchId}
    (hconnected : ((idle bus).run os).isConnected id = true)
    (hanswers : ∃ s, ((idle bus).run os).bus.snapshot? id = some s ∧ s.responsive = true) :
    let b := (idle bus).run os
    let commands := (idle bus).acknowledged os
    let port := (commands.filterMap (Command.portFor? id)).getLast?.getD 0
    let speed := (commands.filterMap (Command.speedFor? id)).getLast?.getD .ss1
    b.read id .status = (.ok s!"p{port.toNat} {speed.name}", b) ∧
      ∀ m, b.model id = .ok m → m.hasMeters = true →
        b.read id .volts = (.ok (if port = 0 then "0.00" else "5.00"), b) ∧
          b.read id .amps = (.ok (if port = 0 then "0.000" else "0.100"), b) := by
  intro b commands port speed
  obtain ⟨s, hs, hresponsive⟩ := hanswers
  obtain ⟨m, hm⟩ := Option.isSome_iff_exists.mp hconnected
  have hsetting : (s.port, s.speed) = (port, speed) := by
    rw [← setting_of_snapshot? (b := b) hs, setting_run, setting_idle h, Command.foldl_applied]
  obtain ⟨hport, hspeed⟩ := Prod.mk.inj hsetting
  have hanswering : b.bus.answering? id = some s := by
    rw [Bus.answering?, show b.bus.snapshot? id = some s from hs, Option.filter_some, if_pos hresponsive]
  have hread : ∀ p, (Command.read id p).refusal? m = none → b.read id p = (.ok (s.report p), b) :=
    fun _ hp => b.read_of_answering hm hanswering hp
  refine ⟨?_, fun m' hm' hmeters => ?_⟩
  · rw [hread .status rfl, ← hport, ← hspeed]
    rfl
  · have hmodel : m' = m := by
      simp only [model, show b.handles.get? id = some m from hm] at hm'
      exact (Except.ok.inj hm').symm
    subst hmodel
    refine ⟨?_, ?_⟩ <;> rw [hread _ (by simp [Command.refusal?, hmeters]), ← hport] <;> rfl

/-- A switch is told its port, falls silent, is given up and is taken again. -/
def outAndBack : List Operation :=
  [.command (.connect ⟨"COM7"⟩ .serial none), .command (.port ⟨"COM7"⟩ 2),
    .setResponsive ⟨"COM7"⟩ false, .command (.port ⟨"COM7"⟩ 1), .command (.disconnect ⟨"COM7"⟩),
    .setResponsive ⟨"COM7"⟩ true, .command (.speed ⟨"COM7"⟩ .ss0),
    .command (.connect ⟨"COM7"⟩ .serial none), .command (.port ⟨"COM7"⟩ 3)]

/-- It still tells the port that it has heard of. -/
theorem read_run_outAndBack :
    let b := (idle (.permissive .m3141)).run outAndBack
    b.isConnected ⟨"COM7"⟩ = true ∧ b.read ⟨"COM7"⟩ .status = (.ok "p2 SS1", b) ∧
      b.read ⟨"COM7"⟩ .volts = (.ok "5.00", b) := by
  intro b
  have hconnected : b.isConnected ⟨"COM7"⟩ = true := by decide
  have hsnapshot : b.bus.snapshot? ⟨"COM7"⟩ = some ⟨.m3141, 2, .ss1, true, true⟩ := by decide
  have hcommands : (idle (.permissive .m3141)).acknowledged outAndBack =
      [.connect ⟨"COM7"⟩ .serial none, .port ⟨"COM7"⟩ 2, .disconnect ⟨"COM7"⟩,
        .connect ⟨"COM7"⟩ .serial none] := by decide
  have hread := read_run (.permissive .m3141) outAndBack hconnected ⟨_, hsnapshot, rfl⟩
  rw [hcommands] at hread
  exact ⟨hconnected, hread.1, (hread.2 .m3141 rfl rfl).1⟩

end Bench

end SwitchBench
