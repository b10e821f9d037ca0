import SwitchBench.Proofs.Run.Starting
import SwitchBench.Proofs.Run.Ticks

/-! The thread of a run.

The thread of a run that nobody asks to stop ticks until the run is no longer running, with a
wait between one tick and the next, and leaves a summary behind. It takes two steps for each
tick and one to begin. -/
namespace SwitchBench

namespace Run
variable {σ : Type} {env : Surroundings σ} {r : Run}

/-- A thread that has ended takes no step. -/
theorem drive_of_isOver (h : r.isOver = true) (n : Nat) (s : σ) : r.drive env n s = ([], r, s) := by
  cases n with
  | zero => rfl
  | succ n => rw [drive, if_pos h]

theorem drive_succ (h : r.isOver = false) (n : Nat) (s : σ) : (r.drive env (n + 1) s).2 =
    ((r.step env s).2.1.drive env n (r.step env s).2.2).2 := by
  rw [drive, if_neg (by simp [h])]

/-- The thread of a run with steps begins. -/
theorem step_of_fresh (hfresh : r.stage = .fresh) (hrun : r.execution.start.status = .running) (s : σ) :
    r.step env s = ([.runStarted r.execution.start.sequence.steps.length r.execution.start.sequence.cycles
      r.execution.start.untilStopped], { r with execution := r.execution.start, stage := .due }, s) := by
  unfold step
  simp only [hfresh]
  rw [if_pos hrun]

/-- The run once the thread has ended. -/
def concluded (r : Run) (e : Execution) : Run :=
  { r with execution := e, stage := .over ⟨e.status, e.progress⟩ }

section
variable (hcalm : ∀ c s, env.crashes c s = false)
include hcalm

/-- The thread of a run that is due ticks. -/
theorem step_of_due (hdue : r.stage = .due) (s : σ) : r.step env s =
    ((r.execution.tick env s).1.events,
      { r with
        execution := (r.execution.tick env s).2.1
        stage :=
          if (r.execution.tick env s).2.1.status = .running then .waiting (r.execution.tick env s).1.wait
          else .closing },
      (r.execution.tick env s).2.2) := by
  unfold step
  simp only [hdue]
  have hnone : (r.command?.map fun c => env.crashes c s).getD false = false := by
    cases r.command? <;> simp [hcalm]
  rw [if_neg (by simp [hnone])]

/-- **A thread that is due ticks until the run is no longer running**, and then ends. -/
theorem drive_of_due (hdue : r.stage = .due) (hstop : r.stopAsked = false)
    (hrun : r.execution.status = .running) {n : Nat} {s : σ}
    (hover : (r.execution.ticks env n s).2.1.status ≠ .running) (spare : Nat) :
    (r.drive env (2 * n + spare) s).2 =
      (r.concluded (r.execution.ticks env n s).2.1, (r.execution.ticks env n s).2.2) := by
  induction n generalizing r s with
  | zero => exact absurd hrun hover
  | succ n ih =>
    have hgoes : r.isOver = false := by simp [isOver, hdue]
    rw [Execution.ticks_succ env hrun] at hover ⊢
    rw [show 2 * (n + 1) + spare = 2 * n + spare + 1 + 1 by omega, drive_succ hgoes, step_of_due hcalm hdue]
    generalize r.execution.tick env s = ticked at hover ⊢
    obtain ⟨t, e, u⟩ := ticked
    dsimp only at hover ⊢
    by_cases hnext : e.status = .running
    · -- The wait after the tick comes to its end, and the next tick is due.
      rw [if_pos hnext, drive_succ rfl]
      have hwait : step env { r with execution := e, stage := .waiting t.wait } u =
          ([], { r with execution := e, stage := .due }, u) := by
        simp [step, hstop]
      rw [hwait]
      exact ih (r := { r with execution := e, stage := .due }) rfl hstop hnext hover
    · rw [if_neg hnext, drive_succ rfl, Execution.ticks_of_not_running env hnext]
      exact congrArg Prod.snd (drive_of_isOver rfl (2 * n + spare) u)

/-- **The thread of an accepted run** that has steps. -/
theorem drive_accepted {q : Sequence} (hsteps : q.steps ≠ []) (options : RunOptions) {n : Nat} {s : σ} :
    let e := (Execution.ready q options.interval options.untilStopped).start
    (e.ticks env n s).2.1.status ≠ .running → ∀ spare,
      ((accepted q options).drive env (2 * n + 1 + spare) s).2 =
        ((accepted q options).concluded (e.ticks env n s).2.1, (e.ticks env n s).2.2) := by
  intro e hover spare
  have hrun : e.status = .running := if_neg (by simpa [Execution.ready] using hsteps)
  rw [show 2 * n + 1 + spare = 2 * n + spare + 1 by omega, drive_succ rfl,
    step_of_fresh rfl (show (accepted q options).execution.start.status = .running from hrun)]
  exact drive_of_due (r := { accepted q options with execution := e, stage := .due }) hcalm rfl rfl hrun hover spare

end

end Run

namespace Runner
variable {σ : Type} {env : Surroundings σ}

/-- What a run leaves behind that is started on a new runner, its switches and a thread having been found. -/
theorem run_new (hthread : ∀ s, env.thread s = (.ok (), s)) {q : Sequence} (hsteps : q.steps ≠ []) {s : σ}
    (hfound : (lookFor env s q.requiredIds).1 = .ok ()) (options : RunOptions) (n : Nat) :
    (new.run env n q options s).1 =
      ((Run.accepted q options).drive env n (lookFor env s q.requiredIds).2.2).2.1.outcome? := by
  rcases hlook : lookFor env s q.requiredIds with ⟨found, events, t⟩
  rw [hlook] at hfound
  cases hfound
  have hstart : new.start env q options s = (.ok (), events, ⟨[.accepted q options], some 0⟩, t) :=
    (start_eq_ok_iff env).mpr ⟨rfl, hsteps, ⟨t, hlook, hthread t⟩, rfl⟩
  unfold run
  rw [hstart]
  rfl

end Runner

end SwitchBench
