import SwitchBench.Proofs.Run.Admission
import SwitchBench.Proofs.Run.Cycles

/-! What a run counts.

On a bench, without a console, nothing passes, and whether a step fails is a matter of the step
and of the model that is connected. So a run counts the failures of one round of its steps as
often as there are rounds, as far as the count goes. -/
namespace SwitchBench

/-- A count stops at the highest number that it can hold. -/
theorem countUp_eq_min (n : UInt32) : (countUp n).toNat = min (n.toNat + 1) 4294967295 := by
  have hlt := n.toNat_lt
  by_cases h : n.toNat < 4294967295
  · rw [countUp_toNat h]
    omega
  · have hn : n = 4294967295 := UInt32.toNat_inj.mp (by show n.toNat = 4294967295; omega)
    subst hn
    decide

/-! ### Round after round -/

namespace Sequence
variable (q : Sequence) (model? : SwitchId → Option Model)

/-- The step at a place fails, where places go on from round to round. -/
def failsAt (place : Nat) : Bool := (q.addressed[place % q.steps.length]?).any (Addressed.fails model?)

/-- How many of the first `k` places have steps that fail. -/
def failuresWithin (k : Nat) : Nat := (List.range k).countP (q.failsAt model?)

theorem length_addressed : q.addressed.length = q.steps.length := by
  simpa [addressed] using congrArg List.length (q.aliases.map_step_address none q.steps)

theorem failuresWithin_succ (k : Nat) : q.failuresWithin model? (k + 1) =
    q.failuresWithin model? k + if q.failsAt model? k then 1 else 0 := by
  rw [failuresWithin, List.range_succ, List.countP_append, List.countP_singleton]
  rfl

/-- One round has every step once. -/
theorem failuresWithin_round :
    q.failuresWithin model? q.steps.length = q.addressed.countP (Addressed.fails model?) := by
  have hround : (List.range q.steps.length).map (fun i => q.addressed[i % q.steps.length]?) =
      q.addressed.map some := by
    refine List.ext_getElem (by simp [length_addressed]) fun i hi _ => ?_
    rw [List.length_map, List.length_range] at hi
    simp [Nat.mod_eq_of_lt hi, length_addressed, hi]
  have hcount := congrArg (List.countP (Option.any (Addressed.fails model?))) hround
  rwa [List.countP_map, List.countP_map] at hcount

/-- **Every round has as many failures.** -/
theorem failuresWithin_rounds (c : Nat) : q.failuresWithin model? (c * q.steps.length) =
    c * q.addressed.countP (Addressed.fails model?) := by
  induction c with
  | zero => rw [Nat.zero_mul, Nat.zero_mul]; rfl
  | succ c ih =>
    have hlast : q.failsAt model? ∘ (c * q.steps.length + ·) = q.failsAt model? := by
      funext i
      rw [Function.comp_apply, failsAt, Nat.mul_add_mod_self_right, failsAt]
    rw [Nat.succ_mul, Nat.succ_mul, ← ih, ← failuresWithin_round, failuresWithin, List.range_add,
      List.countP_append, List.countP_map, hlast]
    rfl

end Sequence

/-! ### What a tick counts -/

/-- A step expects a text at the console, and the console has said it. -/
def Surroundings.Sees {σ : Type} (env : Surroundings σ) (s : σ) : Step → Prop
  | .serial .expect text => ∃ console ∈ env.console, (console.expect text s).1 = .ok true
  | _ => False

namespace Execution
variable {σ : Type} {env : Surroundings σ} {e : Execution} {st : Step} {s : σ}

/-- **Only a text that is seen passes.** -/
theorem passed_iff : (e.perform env st s).1 = .passed ↔ env.Sees s st := by
  cases hc : e.command? st with
  | some c =>
    have hsees : ¬env.Sees s st := by cases st <;> first | cases hc | exact id
    rw [perform_of_command env s hc]
    refine iff_of_false ?_ hsees
    exact ofResult_verdict (P := (· ≠ .passed)) (by simp) (by simp) _ fun _ => by simp
  | none =>
    cases st with
    | serial action payload =>
      show (performSerial env action payload s).1 = .passed ↔ _
      unfold performSerial
      cases hconsole : env.console with
      | none => cases action <;> simp [Surroundings.Sees, hconsole]
      | some console =>
        cases action with
        | connect | write =>
          exact iff_of_false (ofConsole_verdict (P := (· ≠ .passed)) (by simp) _ fun _ => by simp) id
        | expect =>
          rcases hanswer : (console.expect payload s).1 with reason | _ | _ <;>
            simp [Surroundings.Sees, hconsole, hanswer, Verdict.ofConsole]
    | select label =>
      rw [perform_of_quiet env s (by simp) hc]
      refine iff_of_false ?_ id
      unfold quiet
      dsimp only
      split <;> exact Verdict.noConfusion
    | _ =>
      rw [perform_of_quiet env s (by simp) hc]
      exact iff_of_false Verdict.noConfusion id

theorem count_failures (e : Execution) (v : Verdict) : (e.count v).progress.tally.failures =
    if v.failure?.isSome then countUp e.progress.tally.failures else e.progress.tally.failures := by
  cases v <;> simp [count, Verdict.failure?]

theorem count_passes (e : Execution) (v : Verdict) : (e.count v).progress.tally.passes =
    if v = .passed then countUp e.progress.tally.passes else e.progress.tally.passes := by
  cases v <;> simp [count]

section
variable (hrun : e.status = .running) (hst : e.sequence.steps[e.progress.next]? = some st)
include hrun hst

/-- A tick counts a failure of its step, -/
theorem failures_tick : (e.tick env s).2.1.progress.tally.failures =
    if (e.perform env st s).1.failure?.isSome then countUp e.progress.tally.failures
    else e.progress.tally.failures := by
  rw [tick_of_step env s hrun hst]
  exact (advance_failures _).trans (count_failures _ _)

/-- and that it passed. -/
theorem passes_tick : (e.tick env s).2.1.progress.tally.passes =
    if (e.perform env st s).1 = .passed then countUp e.progress.tally.passes
    else e.progress.tally.passes := by
  rw [tick_of_step env s hrun hst]
  exact (advance_passes _).trans (count_passes _ _)

end

/-- Without a console nothing passes. -/
theorem perform_ne_passed (hnone : env.console = none) (e : Execution) (st : Step) :
    (e.perform env st s).1 ≠ .passed := by
  intro hpassed
  have hsees := passed_iff.mp hpassed
  unfold Surroundings.Sees at hsees
  split at hsees
  · obtain ⟨console, hconsole, -⟩ := hsees
    rw [hnone] at hconsole
    cases hconsole
  · exact hsees

/-! ### On a bench -/

variable {bench : σ → Bench}

/-- A bench has no interlock. -/
theorem sink_ne_interlock (henv : env.WorksOn bench) (c : Command) (s : σ) :
    (env.sink c s).1 ≠ .error .interlock := by
  rw [(henv.sink c s).1]
  unfold benchSink
  rcases (bench s).perform c with ⟨error | text, b⟩
  · cases error <;> simp [DispatchError.ofSwitchError]
  · simp

/-- **Whether the step that is due fails** is a matter of the step and of the models. -/
theorem Reached.isSome_failure {q : Sequence} (hq : Blocks q.aliases q.steps) (henv : env.WorksOn bench)
    (hnone : env.console = none) (h : Reached q e) (hready : ∀ id ∈ q.requiredIds, (bench s).IsReady id)
    (hst : e.sequence.steps[e.progress.next]? = some st) :
    ∃ a, q.addressed[e.progress.next]? = some a ∧
      (e.perform env st s).1.failure?.isSome = a.fails (bench s).handles.get? := by
  obtain ⟨a, ha, rfl, hcommand, hfailure⟩ := h.failure_perform hq henv hready hst
  have hbalks : ∀ action payload, env.Balks action payload s := fun _ _ => by
    rw [Surroundings.Balks, hnone]
    trivial
  refine ⟨a, ha, ?_⟩
  rw [Bool.eq_iff_iff, Option.isSome_iff_exists, Run.exists_failure_iff hfailure hcommand, Addressed.fails,
    Bool.or_eq_true, Step.isSerial_iff, ← Addressed.isSome_refusal?_eq, Addressed.isSome_refusal?_iff, hcommand]
  simp only [hbalks, and_true]

/-- What a run of `q` has counted after `k` ticks, and where, if the switches of `b` were in
use when it began. -/
structure Counted (q : Sequence) (b : Bench) (bench : σ → Bench) (k : Nat) (e : Execution) (s : σ) : Prop where
  reached : Reached q e
  passes : e.progress.tally.passes = 0
  failures : e.progress.tally.failures.toNat = min (q.failuresWithin b.handles.get? k) 4294967295
  steady : (bench s).Steady b

section
variable {q : Sequence} {interval : UInt64} {b : Bench} {k : Nat} (hq : Blocks q.aliases q.steps)
  (henv : env.WorksOn bench) (hnone : env.console = none) (hready : ∀ id ∈ q.requiredIds, b.IsReady id)
include hq henv hnone hready

/-- **A tick** counts its step. -/
theorem Counted.tick (h : Counted q b bench k e s) (hstands : Stands q interval k e) (hk : k < q.duration) :
    Counted q b bench (k + 1) (e.tick env s).2.1 (e.tick env s).2.2 := by
  have hrun := hstands.running hk
  obtain ⟨st, hst⟩ := h.reached.exists_step hrun
  obtain ⟨a, ha, hfails⟩ := h.reached.isSome_failure hq henv hnone
    (fun id hid => h.steady.isReady (hready id hid)) hst
  have hpasses : (e.tick env s).2.1.progress.tally.passes = e.progress.tally.passes :=
    (passes_tick hrun hst).trans (if_neg (perform_ne_passed hnone e st))
  refine ⟨h.reached.tick env s, hpasses.trans h.passes, ?_, steady_tick henv e h.steady⟩
  rw [hstands.next] at ha
  rw [failures_tick hrun hst, hfails, h.steady.handles, q.failuresWithin_succ, Sequence.failsAt, ha,
    Option.any_some]
  split
  · rw [countUp_eq_min, h.failures]
    omega
  · exact h.failures

/-- **Tick after tick** the count is as it should be. -/
theorem Counted.ticks (hsteps : q.steps ≠ []) (h : Counted q b bench k e s)
    (hstands : Stands q interval k e) {m : Nat} (hm : k + m ≤ q.duration) :
    Counted q b bench (k + m) (e.ticks env m s).2.1 (e.ticks env m s).2.2 := by
  induction m generalizing k e s with
  | zero => exact h
  | succ m ih =>
    have hk : k < q.duration := by omega
    obtain ⟨-, -, hnext, -⟩ := hstands.tick env (sink_ne_interlock henv) hsteps hk s
    rw [ticks_succ env (hstands.running hk), show k + (m + 1) = k + 1 + m by omega]
    exact ih (h.tick hq henv hnone hready hstands hk) hnext (by omega)

end

end Execution

/-- A run of `q` has been completed and has counted nothing but its cycles and, in each of them,
the steps that are for a console or beyond the model of their switch. -/
structure Summary.Completes (summary : Summary) (q : Sequence) (model? : SwitchId → Option Model) : Prop where
  status : summary.status = .completed
  cycles : summary.progress.tally.cycles = q.cycles
  passes : summary.progress.tally.passes = 0
  failures : summary.progress.tally.failures.toNat =
    min (q.cycles.toNat * q.addressed.countP (Addressed.fails model?)) 4294967295

section
variable {σ : Type} {env : Surroundings σ} {bench : σ → Bench} {q : Sequence} (hq : q.WellFormed)
  (hsteps : q.steps ≠ []) (henv : env.WorksOn bench) (hnone : env.console = none) {s : σ}
  (hready : ∀ id ∈ q.requiredIds, (bench s).IsReady id) (interval : UInt64)
include hq hsteps henv hnone hready

/-- **What a run comes to** that goes through its script on a bench without a console, where
the switches of the script are in use and answer. -/
theorem Execution.completes_start :
    let e := ((ready q interval false).start.ticks env q.duration s).2.1
    Summary.Completes ⟨e.status, e.progress⟩ q (bench s).handles.get? := by
  intro e
  have hbegun : Stands q interval 0 (ready q interval false).start :=
    .begun (e := ready q interval false) rfl hsteps hq.cycles_pos
  have hcounted : Counted q (bench s) bench 0 (ready q interval false).start s :=
    ⟨(Reached.ready interval false).start, rfl, rfl, .refl _⟩
  have hduration : 0 + q.duration ≤ q.duration := Nat.le_of_eq (Nat.zero_add _)
  have hstands := hbegun.ticks env (sink_ne_interlock henv) hsteps hduration s
  have hlast := hcounted.ticks hq.blocks henv hnone hready hsteps hbegun hduration
  rw [Nat.zero_add] at hstands hlast
  have hpos : 0 < q.steps.length := List.length_pos_iff.mpr hsteps
  refine ⟨hstands.status.trans (if_neg (Nat.lt_irrefl _)), UInt32.toNat_inj.mp ?_, hlast.passes, ?_⟩
  · exact hstands.cycles.trans (Nat.mul_div_cancel _ hpos)
  · exact hlast.failures.trans (by rw [Sequence.duration, q.failuresWithin_rounds])

/-- The same of a run on a new runner, which gets a thread and comes to its end in the time that it is given. -/
theorem Runner.completes_run (hthread : ∀ s, env.thread s = (.ok (), s)) : ∃ summary : Summary,
    (new.run env q.threadSteps q ⟨false, interval⟩ s).1 = some (.ok summary) ∧
      summary.Completes q (bench s).handles.get? := by
  have hfound := (lookFor_isOk_iff henv q.requiredIds s).mpr hready
  have hbench := bench_lookFor henv q.requiredIds s
  have hcompletes := Execution.completes_start hq hsteps henv hnone
    (s := (lookFor env s q.requiredIds).2.2) (by rwa [hbench]) interval
  rw [hbench] at hcompletes
  have hdrive := Run.drive_accepted henv.crashes hsteps ⟨false, interval⟩
    (fun he => RunStatus.noConfusion (hcompletes.status.symm.trans he)) 2
  have hlength : q.threadSteps = 2 * q.duration + 1 + 2 := by
    rw [Sequence.threadSteps, Sequence.duration, Nat.mul_assoc]
  refine ⟨_, ?_, hcompletes⟩
  rw [run_new hthread hsteps hfound, hlength, hdrive]
  rfl

end

end SwitchBench
