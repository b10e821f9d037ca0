import SwitchBench.Proofs.Run.OnBench
import SwitchBench.Proofs.Run.Stops

/-! Where a run can be.

A run is started, stopped and ticked any number of times and in any order, and every tick finds
surroundings of its own (`Execution.Call`). Whatever came before, it is running only where a step is
due and, if it is to be completed, while cycles are left; where it is not running, only a start
moves it (`Execution.Governed`). -/
namespace SwitchBench

namespace Execution

/-- What is asked of a run. A tick finds surroundings in some state. -/
inductive Call where
  | start
  | stop (reason : StopReason)
  | tick {σ : Type} (env : Surroundings σ) (s : σ)

/-- The run after one call, -/
def called (e : Execution) : Call → Execution
  | .start => e.start
  | .stop reason => e.stop reason
  | .tick env s => (e.tick env s).2.1

/-- and after one call after another. -/
def after (e : Execution) (calls : List Call) : Execution := calls.foldl called e

/-! ### One call -/

section
variable {e : Execution} {q : Sequence} {interval : UInt64} {untilStopped : Bool}

theorem start_status (e : Execution) :
    e.start.status = if e.sequence.steps.isEmpty then .completed else .running := rfl

/-- A stop leaves a run that is not running as it is. -/
theorem stop_of_not_running (h : e.status ≠ .running) (reason : StopReason) : e.stop reason = e :=
  if_neg h

/-- No call but a start moves a run that is not running. -/
theorem called_of_not_running (h : e.status ≠ .running) {c : Call} (hc : c ≠ .start) : e.called c = e := by
  cases c with
  | start => exact absurd rfl hc
  | stop reason => exact stop_of_not_running h reason
  | tick env s => exact congrArg (·.2.1) (tick_of_not_running env s h)

/-- A run that was started is not idle again. -/
theorem called_idle_iff {c : Call} : (e.called c).status = .idle ↔ e.status = .idle ∧ c ≠ .start := by
  by_cases hc : c = .start
  · subst hc
    refine iff_of_false (fun h => ?_) fun h => h.2 rfl
    rw [called, start_status] at h
    split at h <;> cases h
  · by_cases hrun : e.status = .running
    · refine iff_of_false (fun h => ?_) fun h => by rw [hrun] at h; cases h.1
      cases c with
      | start => exact hc rfl
      | stop reason => simp [called, stop, hrun] at h
      | tick env s =>
        rw [called] at h
        rcases tick_status env (s := s) hrun with hs | hs | hs <;> rw [hs] at h <;> cases h
    · rw [called_of_not_running hrun hc]
      exact (and_iff_left hc).symm

/-- What every call keeps of a run of `q`. -/
structure Kept (q : Sequence) (interval : UInt64) (untilStopped : Bool) (e : Execution) : Prop where
  reached : Reached q e
  interval : e.progress.interval = interval
  mode : e.untilStopped = untilStopped
  cycles : e.status = .running → untilStopped = false → e.progress.tally.cycles < q.cycles
  endless : untilStopped = true → q.steps ≠ [] → e.status ≠ .completed

/-- A run that goes on has cycles left, since it would be completed otherwise. -/
theorem Kept.advance {e : Execution} (hreached : Reached q e.advance.1) (hsequence : e.sequence = q)
    (hinterval : e.progress.interval = interval) (hmode : e.untilStopped = untilStopped)
    (hcycles : e.status = .running → untilStopped = false → e.progress.tally.cycles < q.cycles)
    (hendless : untilStopped = true → e.status ≠ .completed) : Kept q interval untilStopped e.advance.1 := by
  rw [advance_eq] at hreached ⊢
  split at hreached
  next hmore =>
    rw [if_pos hmore]
    exact ⟨hreached, hinterval, hmode, hcycles, fun hu _ => hendless hu⟩
  next hlast =>
    rw [if_neg hlast]
    refine ⟨hreached, hinterval, hmode, fun hrun hu => ?_, fun hu _ => ?_⟩
    · dsimp only at hrun ⊢
      split at hrun
      · cases hrun
      next hleft =>
        rw [hsequence] at hleft
        exact UInt32.not_le.mp fun hle => hleft ⟨hrun, hmode.trans hu, hle⟩
    · have hnot : ¬ (e.status = .running ∧ e.untilStopped = false ∧ e.sequence.cycles ≤ e.cycled.cycles) := by
        rintro ⟨-, hfalse, -⟩
        rw [hmode, hu] at hfalse
        cases hfalse
      dsimp only
      rw [if_neg hnot]
      exact hendless hu

/-- **A tick** of a run that is running. -/
theorem Kept.tick (h : Kept q interval untilStopped e) (hrun : e.status = .running) {σ : Type}
    (env : Surroundings σ) (s : σ) : Kept q interval untilStopped (e.tick env s).2.1 := by
  obtain ⟨st, hst⟩ := h.reached.exists_step hrun
  have hreached := h.reached.tick env s
  rw [tick_of_step env s hrun hst] at hreached ⊢
  have hstatus : ∀ v : Verdict, ({ e with current := e.selected st }.count v).status = .running ∨
      ({ e with current := e.selected st }.count v).status = .stopped .fault := by
    intro v
    cases v with
    | fault m => exact .inr (congrArg (·.status) (count_fault (e := { e with current := e.selected st }) hrun m))
    | _ => exact .inl hrun
  refine Kept.advance hreached (by simpa using h.reached.sequence) (by simpa using h.interval)
    (by simpa using h.mode) (fun _ hu => by simpa using h.cycles hrun hu) fun _ hcompleted => ?_
  rcases hstatus (e.perform env st s).1 with hs | hs <;> rw [hs] at hcompleted <;> cases hcompleted

/-- **Every call keeps it.** -/
theorem Kept.called (h : Kept q interval untilStopped e) (hcycles : 0 < q.cycles) (c : Call) :
    Kept q interval untilStopped (e.called c) := by
  cases c with
  | start =>
    have hsequence := h.reached.sequence
    refine ⟨h.reached.start, h.interval, h.mode, fun _ _ => hcycles, fun _ hsteps => ?_⟩
    rw [Execution.called, start_status, hsequence, if_neg (by simpa using hsteps)]
    exact fun hc => RunStatus.noConfusion hc
  | stop reason =>
    by_cases hrun : e.status = .running
    · have hstop : e.stop reason = { e with status := .stopped reason } := if_pos hrun
      have hreached := h.reached.stop reason
      rw [Execution.called]
      rw [hstop] at hreached ⊢
      exact ⟨hreached, h.interval, h.mode, fun hc => RunStatus.noConfusion hc,
        fun _ _ hc => RunStatus.noConfusion hc⟩
    · rwa [called_of_not_running hrun (fun hc => Call.noConfusion hc)]
  | tick env s =>
    by_cases hrun : e.status = .running
    · exact h.tick hrun env s
    · rwa [called_of_not_running hrun (fun hc => Call.noConfusion hc)]

end

/-! ### Call after call -/

section
variable {e : Execution} {q : Sequence} {interval : UInt64} {untilStopped : Bool}

theorem after_of_not_running (h : e.status ≠ .running) {calls : List Call} (hcalls : .start ∉ calls) :
    e.after calls = e := by
  induction calls with
  | nil => rfl
  | cons c rest ih =>
    rw [List.mem_cons, not_or] at hcalls
    show (e.called c).after rest = e
    rw [called_of_not_running h (Ne.symm hcalls.1)]
    exact ih hcalls.2

theorem after_idle_iff {calls : List Call} :
    (e.after calls).status = .idle ↔ e.status = .idle ∧ .start ∉ calls := by
  induction calls generalizing e with
  | nil => simp [after]
  | cons c rest ih =>
    show ((e.called c).after rest).status = .idle ↔ _
    rw [ih, called_idle_iff, List.mem_cons, not_or, and_assoc, ne_comm]

theorem Kept.after (h : Kept q interval untilStopped e) (hcycles : 0 < q.cycles) (calls : List Call) :
    Kept q interval untilStopped (e.after calls) := by
  induction calls generalizing e with
  | nil => exact h
  | cons c rest ih => exact ih (h.called hcycles c)

end

/-- What can be relied on of a run of `q` after calls. -/
structure Governed (q : Sequence) (interval : UInt64) (untilStopped : Bool) (calls : List Call)
    (e : Execution) : Prop where
  /-- While it is running a step is due, -/
  due : e.status = .running → e.progress.next < q.steps.length
  /-- and unless it is to go on until it is stopped, cycles are left. -/
  cycles : e.status = .running → untilStopped = false → e.progress.tally.cycles < q.cycles
  /-- It is idle until it is started, and never again. -/
  idle : e.status = .idle ↔ .start ∉ calls
  /-- Where it is not running, a tick waits for nothing, tells of nothing and does nothing, -/
  silent : e.status ≠ .running → ∀ {σ : Type} (env : Surroundings σ) (s : σ), e.tick env s = (⟨0, none, []⟩, e, s)
  /-- and neither ticks nor stops move it. -/
  resting : e.status ≠ .running → ∀ more : List Call, .start ∉ more → e.after more = e
  /-- A run that is to go on until it is stopped is not completed. -/
  endless : untilStopped = true → q.steps ≠ [] → e.status ≠ .completed
  interval : e.progress.interval = interval

/-- **Where a run of a script can be**, whatever it was asked to do and whatever its ticks found. -/
theorem after_governed (text : List Char) (interval : UInt64) (untilStopped : Bool) (calls : List Call) :
    let q := (Reading.ofText text).sequence
    Governed q interval untilStopped calls ((ready q interval untilStopped).after calls) := by
  intro q
  have hcycles : 0 < q.cycles := UInt32.lt_iff_toNat_lt.mpr (Reading.ofText_wellFormed text).cycles_pos
  have hready : Kept q interval untilStopped (ready q interval untilStopped) :=
    ⟨.ready _ _, rfl, rfl, fun hc => RunStatus.noConfusion hc, fun _ _ hc => RunStatus.noConfusion hc⟩
  have h := hready.after hcycles calls
  refine ⟨fun hrun => ?_, h.cycles, after_idle_iff.trans (and_iff_right rfl),
    fun hrest {σ} env s => tick_of_not_running env s hrest, fun hrest more => after_of_not_running hrest,
    h.endless, h.interval⟩
  obtain ⟨st, hst⟩ := h.reached.exists_step hrun
  have hlt := (List.getElem?_eq_some_iff.mp hst).1
  rwa [h.reached.sequence] at hlt

/-- A run that was stopped rests until it is started again. -/
example :
    let e := (ready ⟨[.delay 5], .empty⟩ 1 true).after [.start, .tick .silent (), .stop .manual, .tick .silent ()]
    e.status = .stopped .manual ∧ e.progress.tally.cycles = 1 ∧ (e.after [.start]).status = .running := by
  decide

end Execution

end SwitchBench
