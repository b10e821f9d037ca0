import SwitchBench.Proofs.Dispatch.Roles
import SwitchBench.Proofs.Switch.Operations

/-! Failures change nothing.

A request that comes to no command leaves the bench as it is, and so does one that comes
to a command that fails or only reads. So a client that is told of a failure, or is told
nothing, has changed nothing. -/
namespace SwitchBench

/-- The response says that nothing was done. -/
def Response.refuses (r : Response) : Bool :=
  r.fault?.isSome || r.isInvalid || r.text? == Response.fail.text?

/-- A command that only reads. -/
def ControlCommand.isReading : ControlCommand → Bool
  | .read | .status | .volts | .amps => true
  | .switch | .speed => false

/-- A request for a search or a reading. -/
def Request.isQuery (r : Request) : Bool :=
  match r.category? with
  | some .device => r.cmd.name?.bind DeviceCommand.ofText? == some .search
  | some .control => (r.cmd.name?.bind ControlCommand.ofText?).any ControlCommand.isReading
  | none => false

namespace Bench

/-! ### Refusals and queries -/

/-- What is answered with the result of a command is no refusal if it was carried out. -/
theorem refuses_response_ok {b : Bench} {c : Command} {t : String} (h : (b.perform c).1 = .ok t) :
    (c.response (.ok t)).refuses = false := by
  have hfail : t ≠ "fail" := fun he => perform_not_signal h (by rw [he]; decide)
  have hinvalid : t ≠ "Invalid command" := fun he => perform_not_signal h (by rw [he]; decide)
  have hfault : (Response.text t).fault? = none := rfl
  rw [Command.response_ok h, Response.refuses, hfault]
  simp [Response.isInvalid, Response.text?, Response.text, Response.fail, Response.invalid, Json.text?,
    hfail, hinvalid]

/-- A request that is refused changes nothing. -/
theorem answer_of_refuses {limit : Nat} {b : Bench} {r : Request}
    (h : (b.answer limit r).1.refuses = true) : (b.answer limit r).2 = b := by
  cases hc : b.command? r with
  | none => exact b.answer_of_none limit hc
  | some c =>
    rw [b.answer_of_command? limit hc] at h ⊢
    cases hresult : (b.perform c).1 with
    | error e => exact perform_error hresult
    | ok t =>
      rw [hresult, refuses_response_ok hresult] at h
      cases h

/-- A query comes to a reading or to nothing. -/
theorem command?_of_isQuery {b : Bench} {r : Request} {c : Command} (h : r.isQuery = true)
    (hc : b.command? r = some c) : ∃ id p, c = .read id p := by
  unfold Request.isQuery at h
  unfold command? at hc
  split at h
  next hr =>
    rw [hr] at hc
    simp only [deviceCommand?, beq_iff_eq.mp h] at hc
    cases hc
  next hr =>
    obtain ⟨k, hk, hreading⟩ := (Option.any_eq_true _ _).mp h
    rw [hr] at hc
    have horder : order? r = some (.named k) := by
      unfold order?
      rw [hk]
    simp only [controlCommand?, horder, Option.bind_some] at hc
    split at hc
    next id hid =>
      cases k with
      | switch | speed => cases hreading
      | read =>
        obtain ⟨p, -, rfl⟩ := Option.map_eq_some_iff.mp hc
        exact ⟨id, p, rfl⟩
      | status | volts | amps =>
        cases hc
        exact ⟨id, _, rfl⟩
    next => cases hc
  next => cases h

theorem answer_of_isQuery {b : Bench} {r : Request} (limit : Nat) (h : r.isQuery = true) :
    (b.answer limit r).2 = b := by
  cases hc : b.command? r with
  | none => exact b.answer_of_none limit hc
  | some c =>
    obtain ⟨id, p, rfl⟩ := command?_of_isQuery h hc
    rw [b.answer_of_command? limit hc]
    exact b.read_snd id p

/-- A connection changes what the request that it carries changes. -/
theorem serve_snd (limit : Nat) (b : Bench) (ending : Ending) (bytes : List UInt8) :
    (b.serve limit ending bytes).2 =
      match Request.read ending bytes with
      | .ok (some r) => (b.answer limit r).2
      | _ => b := by
  unfold serve
  cases Request.read ending bytes with
  | ok o => cases o <;> rfl
  | error e => cases e <;> rfl

/-- **Failures change nothing**, on whatever bench. An operation that fails leaves it as it
was, and so does a connection, whatever bytes it brings, that is not answered or is answered
with a refusal. A request for a search or a reading leaves it as it was in any case. -/
theorem unchanged_of_failure (b : Bench) :
    (∀ o e, (b.operate o).1 = .error e → (b.operate o).2 = b) ∧
      (∀ limit ending bytes, (∀ r, (b.serve limit ending bytes).1 = some r → r.refuses = true) →
        (b.serve limit ending bytes).2 = b) ∧
      ∀ limit ending bytes r, Request.read ending bytes = .ok (some r) → r.isQuery = true →
        (b.serve limit ending bytes).2 = b := by
  refine ⟨fun o e h => operate_error h, ?_, ?_⟩
  · intro limit ending bytes h
    rw [serve_snd]
    split
    next r hread =>
      simp only [serve, hread] at h
      exact answer_of_refuses (h _ rfl)
    next => rfl
  · intro limit ending bytes r hread hquery
    rw [serve_snd, hread]
    exact answer_of_isQuery limit hquery

/-- A port beyond those of the model is refused, and the switch keeps its port. -/
theorem unchanged_of_failure_com7 :
    let b : Bench := ⟨(Bus.listed [(⟨"COM7"⟩, .m3141)]).set ⟨"COM7"⟩ ⟨.m3141, 1, .ss1, true, true⟩,
      .ofList [(⟨"COM7"⟩, .m3141)]⟩
    let bytes := (Command.port ⟨"COM7"⟩ 3).request.bytes
    (b.serve 5000 .closes bytes).1.all Response.refuses = true ∧ (b.serve 5000 .closes bytes).2 = b := by
  intro b bytes
  have hrefused : (b.serve 5000 .closes bytes).1.all Response.refuses = true := by decide
  refine ⟨hrefused, b.unchanged_of_failure.2.1 5000 .closes bytes fun r hr => ?_⟩
  rw [hr] at hrefused
  exact hrefused

end Bench

end SwitchBench
