import SwitchBench.Proofs.Server.Commands
import SwitchBench.Proofs.Switch.Operations

/-! Orders to a switch.

To set a port, to select a speed and to read are orders, which go through the handle that is
held. A model refuses what it cannot do (`Command.refusal?`); any other order is carried out
by the switch (`Command.act`), if it answers. -/
namespace SwitchBench

namespace Command

/-- Why an order is not put to a switch of the model. -/
def refusal? (m : Model) : Command → Option SwitchError
  | port id n => if m.accepts n then none else some (.noSuchPort id m n)
  | speed id mode => if m.hasSpeed then none else some (.noSpeedControl id m mode)
  | read id p => if p.isMeasurement && !m.hasMeters then some (.noMeters id m p) else none
  | connect .. | disconnect _ => none

/-- What a switch answers to an order, and what it becomes. -/
def act (s : Snapshot) : Command → String × Snapshot
  | port _ n => (acknowledgement, { s with port := n })
  | speed _ mode => (acknowledgement, { s with speed := mode })
  | read _ p => (s.report p, s)
  | connect .. | disconnect _ => (acknowledgement, s)

/-- A refusal is for what the model cannot do. -/
theorem kind_of_refusal? {c : Command} {m : Model} {e : SwitchError} (h : c.refusal? m = some e) :
    e.kind = .unsupported := by
  cases c with
  | port id n | speed id mode | read id p =>
    simp only [refusal?] at h
    split at h <;> cases h
    rfl
  | connect _ _ _ | disconnect _ => cases h

@[simp] theorem act_responsive (c : Command) (s : Snapshot) :
    (c.act s).2.responsive = s.responsive := by
  cases c <;> rfl

end Command

namespace Bench
variable (b : Bench)

theorem perform_order {c : Command} (h : c.isDevice = false) :
    b.perform c = b.command c.id c.refusal? c.act := by
  cases c with
  | port _ _ | speed _ _ | read _ _ => rfl
  | connect _ _ _ | disconnect _ => cases h

/-- An order through a handle to a switch that answers is refused or carried out. -/
theorem perform_of_answering {c : Command} (h : c.isDevice = false) {m : Model} {s : Snapshot}
    (hm : b.handles.get? c.id = some m) (hs : b.bus.answering? c.id = some s) : b.perform c =
      match c.refusal? m with
      | some e => (.error e, b)
      | none => (.ok (c.act s).1, { b with bus := b.bus.set c.id (c.act s).2 }) := by
  rw [b.perform_order h, command, hm]
  cases hrefusal : c.refusal? m with
  | some e => simp only [hrefusal]
  | none => simp only [hrefusal, hs]

theorem read_of_answering {id : SwitchId} {p : Parameter} {m : Model} {s : Snapshot}
    (hm : b.handles.get? id = some m) (hs : b.bus.answering? id = some s)
    (hp : (Command.read id p).refusal? m = none) : b.read id p = (.ok (s.report p), b) := by
  have hperform := b.perform_of_answering (c := .read id p) rfl hm hs
  rw [hp] at hperform
  have hresult : (b.read id p).1 = .ok (s.report p) := congrArg Prod.fst hperform
  exact Prod.ext hresult (b.read_snd id p)

/-! ### Who is there -/

/-- A handle of the switch is held, and the switch answers. -/
def IsReady (id : SwitchId) : Prop := (∃ m, b.handles.get? id = some m) ∧ ∃ s, b.bus.answering? id = some s

/-- The same switches are in use, of the same models, and the same ones answer. -/
structure Steady (b c : Bench) : Prop where
  handles : b.handles = c.handles
  answering : ∀ id, (b.bus.answering? id).isSome = (c.bus.answering? id).isSome

theorem Steady.refl (b : Bench) : b.Steady b := ⟨rfl, fun _ => rfl⟩

theorem Steady.isReady {b c : Bench} (h : b.Steady c) {id : SwitchId} (hid : c.IsReady id) :
    b.IsReady id := by
  unfold IsReady at hid ⊢
  rw [← Option.isSome_iff_exists, ← Option.isSome_iff_exists] at hid ⊢
  rwa [h.handles, h.answering]

/-- An order makes no difference to that, carried out or not. -/
theorem Steady.perform {b c : Bench} (h : b.Steady c) {o : Command} (ho : o.isDevice = false) :
    (b.perform o).2.Steady c := by
  rw [b.perform_order ho]
  rcases b.command_cases o.id o.refusal? o.act with ⟨e, hfail⟩ | ⟨m, s, -, hs, -, hdone⟩
  · rw [hfail]
    exact h
  · rw [hdone]
    refine ⟨h.handles, fun k => ?_⟩
    rw [← h.answering, Bus.answering?, Bus.answering?, Bus.snapshot?_set]
    split
    next hk =>
      rw [hk, hs, Option.filter_some, Option.filter_some, Command.act_responsive]
      cases s.responsive <;> rfl
    next => rfl

/-- What a bench makes of an order through a handle to a switch that answers. -/
theorem benchSink_of_answering {c : Command} (h : c.isDevice = false) {m : Model}
    (hm : b.handles.get? c.id = some m) {s : Snapshot} (hs : b.bus.answering? c.id = some s) :
    (benchSink c b).1 = match c.refusal? m with
      | some e => .error (.device e)
      | none => .ok (.ofText (c.act s).1) := by
  unfold benchSink
  rw [b.perform_of_answering h hm hs]
  cases hrefusal : c.refusal? m with
  | none => rfl
  | some e =>
    have hkind := Command.kind_of_refusal? hrefusal
    cases e <;> first | rfl | cases hkind

end Bench

end SwitchBench
