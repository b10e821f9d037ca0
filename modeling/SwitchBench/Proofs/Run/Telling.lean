import SwitchBench.Proofs.Run.OnBench
import SwitchBench.Proofs.Run.Threads

/-! What the thread of a run tells.

A thread tells of its beginning, then of its steps and cycles, and of its end if it leaves a summary
behind (`Run.Tells`). Each of its steps goes on telling, and what is left behind stays
(`Run.Continues`). -/
namespace SwitchBench

/-- The event tells of a step of a sequence. -/
def Event.isOfStep : Event → Bool
  | runStarted .. | runRejected _ | runFinished _ => false
  | dispatched .. | consoleOpened .. | consoleWritten _ | consoleAwaited _ | stepFailed .. | cycleCompleted _ => true

namespace Execution

/-- What a run was accepted with. -/
def charge (e : Execution) : Sequence × RunOptions := (e.sequence, ⟨e.untilStopped, e.progress.interval⟩)

variable {σ : Type} (env : Surroundings σ) (e : Execution) (s : σ)

theorem charge_tick : (e.tick env s).2.1.charge = e.charge := by
  by_cases hrun : e.status = .running
  · cases hst : e.sequence.steps[e.progress.next]? with
    | none => rw [tick_of_no_step env s hrun hst]; rfl
    | some st =>
      rw [tick_of_step env s hrun hst]
      dsimp only
      rw [advance_eq]
      split <;> simp [charge]
  · rw [tick_of_not_running env s hrun]

/-- A tick tells of its step and of the cycle that ends with it. -/
theorem isOfStep_of_mem_tick {event : Event} (h : event ∈ (e.tick env s).1.events) : event.isOfStep = true := by
  by_cases hrun : e.status = .running
  · cases hst : e.sequence.steps[e.progress.next]? with
    | none => rw [tick_of_no_step env s hrun hst] at h; cases h
    | some st =>
      rcases (mem_tick_events hrun hst).mp h with h | ⟨message, -, rfl⟩ | ⟨tally, -, rfl⟩
      · cases hc : e.command? st with
        | some c =>
          rw [perform_of_command env s hc] at h
          rw [List.mem_singleton.mp h]
          rfl
        | none =>
          cases st with
          | serial action payload =>
            rcases performSerial_event (show event ∈ (performSerial env action payload s).2.1 from h) with
              ⟨path, baud, rfl⟩ | ⟨text, rfl⟩ | ⟨text, rfl⟩ <;> rfl
          | _ => rw [perform_of_quiet env s (by simp) hc] at h; cases h
      · rfl
      · rfl
  · rw [tick_of_not_running env s hrun] at h
    cases h

end Execution

namespace Run

/-- What a run was accepted with. -/
def charge (r : Run) : Sequence × RunOptions := r.execution.charge

/-- How a thread begins to tell of its run. -/
def beginning (r : Run) : Event :=
  .runStarted r.charge.1.steps.length r.charge.1.cycles r.charge.2.untilStopped

/-- How it ends, once it has left a summary. -/
def ending (r : Run) : List Event :=
  match r.stage with
  | .over summary => [.runFinished summary]
  | .fresh | .due | .waiting _ | .closing | .crashed => []

/-- The events that the thread has told: it has not begun, or has told of its beginning, then of
steps and cycles, and of its end if it has left a summary. -/
def Tells (r : Run) (events : List Event) : Prop :=
  (r.stage = .fresh ∧ events = []) ∨
    (r.stage ≠ .fresh ∧ ∃ middle, (∀ event ∈ middle, event.isOfStep = true) ∧
      events = r.beginning :: middle ++ r.ending)

variable {σ : Type} {env : Surroundings σ} {r : Run} {events : List Event} {s : σ}

theorem charge_step (env : Surroundings σ) (r : Run) (s : σ) : (r.step env s).2.1.charge = r.charge := by
  unfold step
  cases hstage : r.stage with
  | due =>
    dsimp only
    split
    · rfl
    · exact Execution.charge_tick env r.execution s
  | waiting ms =>
    dsimp only
    split
    · unfold charge Execution.charge
      simp
    · rfl
  | _ => rfl

/-- What a thread leaves behind stays. -/
theorem outcome?_step {o : Except RunError Summary} (h : r.outcome? = some o) :
    (r.step env s).2.1.outcome? = some o := by
  unfold outcome? at h
  split at h
  next hstage => simp [step, hstage, outcome?, h]
  next hstage => simp [step, hstage, outcome?, h]
  all_goals cases h

/-- A thread has ended when it has left something behind. -/
theorem isSome_outcome? (r : Run) : r.outcome?.isSome = r.isOver := by
  unfold outcome? isOver
  cases r.stage <;> rfl

/-- Once it has begun, a thread tells of steps and cycles and, when it leaves a summary, of that. -/
theorem ending_step (env : Surroundings σ) (s : σ) (hbegun : r.stage ≠ .fresh) :
    (r.step env s).2.1.stage ≠ .fresh ∧ ∃ more, (∀ event ∈ more, event.isOfStep = true) ∧
      r.ending ++ (r.step env s).1 = more ++ (r.step env s).2.1.ending := by
  unfold ending step
  cases hstage : r.stage with
  | fresh => exact absurd hstage hbegun
  | due =>
    dsimp only
    split
    · exact ⟨by simp, [], by simp, rfl⟩
    · refine ⟨by dsimp only; split <;> simp, (r.execution.tick env s).1.events,
        fun event => Execution.isOfStep_of_mem_tick env r.execution s, ?_⟩
      by_cases hrun : (r.execution.tick env s).2.1.status = .running <;> simp [hrun]
  | waiting ms =>
    dsimp only
    split
    · exact ⟨by simp, [], by simp, rfl⟩
    · exact ⟨by simp, [], by simp, rfl⟩
  | closing => exact ⟨by simp, [], by simp, rfl⟩
  | _ => exact ⟨by simp [hstage], [], by simp, by simp [hstage]⟩

/-- **A step of a thread** goes on telling of its run. -/
theorem Tells.step (h : r.Tells events) : (r.step env s).2.1.Tells (events ++ (r.step env s).1) := by
  have hbeginning : (r.step env s).2.1.beginning = r.beginning := by unfold beginning; rw [charge_step]
  rcases h with ⟨hstage, rfl⟩ | ⟨hbegun, middle, hmiddle, rfl⟩
  · refine .inr ?_
    unfold Run.step ending
    rw [hstage]
    dsimp only
    split
    · exact ⟨by simp, [], by simp, rfl⟩
    · exact ⟨by simp, [], by simp, rfl⟩
  · obtain ⟨hgoes, more, hmore, hending⟩ := ending_step env s hbegun
    refine .inr ⟨hgoes, middle ++ more, fun event hevent => ?_, ?_⟩
    · rcases List.mem_append.mp hevent with hevent | hevent
      · exact hmiddle event hevent
      · exact hmore event hevent
    · rw [hbeginning, List.append_assoc, hending, List.cons_append, List.cons_append, List.append_assoc]

/-- A run becomes another one while events are told of it: it is the same run, goes on telling, and
keeps what it has left behind. -/
structure Continues (r : Run) (events : List Event) (r' : Run) : Prop where
  charge : r'.charge = r.charge
  tells : ∀ before, r.Tells before → r'.Tells (before ++ events)
  outcome : ∀ o, r.outcome? = some o → r'.outcome? = some o

theorem Continues.refl (r : Run) : r.Continues [] r :=
  ⟨rfl, fun before h => by rwa [List.append_nil], fun _ h => h⟩

theorem Continues.trans {r' r'' : Run} {more : List Event} (h : r.Continues events r')
    (h' : r'.Continues more r'') : r.Continues (events ++ more) r'' :=
  ⟨h'.charge.trans h.charge,
    fun before hr => List.append_assoc before events more ▸ h'.tells _ (h.tells before hr),
    fun o ho => h'.outcome o (h.outcome o ho)⟩

theorem continues_step (env : Surroundings σ) (r : Run) (s : σ) : r.Continues (r.step env s).1 (r.step env s).2.1 :=
  ⟨charge_step env r s, fun _ => Tells.step, fun _ => outcome?_step⟩

theorem continues_drive (env : Surroundings σ) (n : Nat) (r : Run) (s : σ) :
    r.Continues (r.drive env n s).1 (r.drive env n s).2.1 := by
  induction n generalizing r s with
  | zero => exact .refl r
  | succ n ih =>
    rw [drive]
    split
    · exact .refl r
    · exact (continues_step env r s).trans (ih _ _)

/-- A run that is asked to stop says nothing to that. -/
theorem continues_asked (r : Run) : r.Continues [] { r with stopAsked := true } :=
  ⟨rfl, fun before h => by rwa [List.append_nil], fun _ h => h⟩

end Run

end SwitchBench
