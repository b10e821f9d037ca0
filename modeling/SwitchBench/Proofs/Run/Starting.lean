import SwitchBench.Run.Runner

/-! Starting a run.

A start is refused and leaves the runner as it is, or it is refused a thread and leaves the slot empty,
or it is accepted and its run takes the slot (`Runner.Starts`). The last two come only where nothing goes
on in the slot. What it takes to be accepted is known in full (`Runner.start_eq_ok_iff`). -/
namespace SwitchBench.Runner

/-- Where nothing goes on in the slot, the run there is over. -/
theorem isOver_of_idle {r : Runner} (hidle : r.isRunning = false) {i : Nat} {run : Run} (hslot : r.slot = some i)
    (hrun : r.runs[i]? = some run) : run.isOver = true := by
  simpa [isRunning, active?, hslot, hrun] using hidle

/-- What a start comes to, and what becomes of the runner. -/
inductive Starts (r : Runner) (q : Sequence) (options : RunOptions) : Except RunError Unit → Runner → Prop
  | refused {e : RunError} (hgot : ∀ reason, e ≠ .noThread reason) : Starts r q options (.error e) r
  | lost (hidle : r.isRunning = false) (reason : SystemError) :
    Starts r q options (.error (.noThread reason)) { r with slot := none }
  | accepted (hidle : r.isRunning = false) :
    Starts r q options (.ok ()) ⟨r.runs ++ [.accepted q options], some r.runs.length⟩

section
variable {σ : Type} (env : Surroundings σ)

/-- The last step of a start. -/
theorem starts_store (r : Runner) (q : Sequence) (options : RunOptions) (s : σ) :
    r.Starts q options (r.store env q options s).1 (r.store env q options s).2.1 := by
  unfold store
  cases hidle : r.isRunning with
  | true => exact .refused fun _ => RunError.noConfusion
  | false =>
    rw [if_neg Bool.false_ne_true]
    split
    next => exact .accepted hidle
    next reason _ _ => exact .lost hidle reason

/-- Looking for switches fails for want of one and for nothing else. -/
theorem lookFor_error {ids : List SwitchId} {s t : σ} {e : RunError} {events : List Event}
    (h : lookFor env s ids = (.error e, events, t)) : ∃ id cause, e = .missingSwitch id cause := by
  induction ids generalizing s events with
  | nil => cases h
  | cons id rest ih =>
    unfold lookFor at h
    dsimp only at h
    split at h
    next =>
      rcases hrest : lookFor env (env.sink (.read id .status) s).2 rest with ⟨found, told, u⟩
      rw [hrest] at h
      cases h
      exact ih hrest
    next cause _ =>
      cases h
      exact ⟨id, cause, rfl⟩

/-- **A start.** -/
theorem starts_start (r : Runner) (q : Sequence) (options : RunOptions) (s : σ) :
    r.Starts q options (r.start env q options s).1 (r.start env q options s).2.2.1 := by
  unfold start checkIdle preflight
  cases r.isRunning with
  | true => exact .refused fun _ => RunError.noConfusion
  | false =>
    rw [if_neg Bool.false_ne_true]
    dsimp only
    split
    · exact .refused fun _ => RunError.noConfusion
    · rcases hlook : lookFor env s q.requiredIds with ⟨e | ⟨⟩, events, t⟩
      · obtain ⟨id, cause, rfl⟩ := lookFor_error env hlook
        exact .refused fun _ => RunError.noConfusion
      · exact starts_store env r q options t

/-- **When a start is accepted**: nothing goes on in the slot, the sequence has steps, and its switches and
then a thread are found. -/
theorem start_eq_ok_iff {r r' : Runner} {q : Sequence} {options : RunOptions} {s t : σ} {events : List Event} :
    r.start env q options s = (.ok (), events, r', t) ↔
      r.isRunning = false ∧ q.steps ≠ [] ∧
        (∃ u, lookFor env s q.requiredIds = (.ok (), events, u) ∧ env.thread u = (.ok (), t)) ∧
        r' = ⟨r.runs ++ [.accepted q options], some r.runs.length⟩ := by
  unfold start checkIdle preflight store
  cases r.isRunning with
  | true => simp
  | false =>
    by_cases hsteps : q.steps = []
    · simp [hsteps]
    · rcases lookFor env s q.requiredIds with ⟨e | ⟨⟩, told, u⟩
      · simp [hsteps]
      · rcases hgot : env.thread u with ⟨e | ⟨⟩, v⟩
        · simp [hsteps, and_assoc, hgot]
        · simp [hsteps, hgot, @eq_comm _ r', and_assoc, and_comm, and_left_comm]

end

end SwitchBench.Runner
