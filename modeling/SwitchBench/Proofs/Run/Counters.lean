import SwitchBench.Proofs.Run.Lifecycle
import SwitchBench.Proofs.Run.Tallies

/-! What the counts of a run say.

Every tick that finds a run running carries out one step (`Execution.Ticked`). The step passes if it
expects a text that is seen. It fails if its command is refused, if it is for a switch that nobody
knows, or if the console balks (`Execution.Fails`), and no step does both. Whatever is asked of a run
between two starts, its tally says how many cycles its ticks have come to, how many of their steps
passed and how many failed, each as far as a count goes (`Tally.Accounts`); and each tick has told of
its own failure and of its own cycle, once, and of no other (`Execution.Ticked.Reports`). -/
namespace SwitchBench

/-- The place of the step whose failure an event tells of. -/
def Event.failedAt? : Event → Option Nat
  | .stepFailed place _ => some place
  | _ => none

/-- The tally that an event tells of at the end of a cycle. -/
def Event.tally? : Event → Option Tally
  | .cycleCompleted tally => some tally
  | _ => none

namespace Execution

/-! ### What passes and what fails -/

/-- A step that is carried out where a run stands fails. -/
inductive Fails {σ : Type} (env : Surroundings σ) (e : Execution) (s : σ) : Step → Prop
  /-- Its command is refused. -/
  | refused {st : Step} {c : Command} {reason : DispatchError} (hc : e.command? st = some c)
    (h : (env.sink c s).1 = .error reason) : Fails env e s st
  /-- It is an order, and there is no switch for it. -/
  | astray {st : Step} (horder : st.isOrder = true) (hc : e.command? st = none) : Fails env e s st
  /-- It selects a switch that is not declared. -/
  | undeclared {label : String} (h : e.sequence.aliases.get? label = none) : Fails env e s (.select label)
  /-- It is for the console. -/
  | balks {action : SerialAction} {payload : String} (h : env.Balks action payload s) :
    Fails env e s (.serial action payload)

section
variable {σ : Type} {env : Surroundings σ} {e : Execution} {st : Step} {s : σ}

theorem failure_ofResult {α : Type} (r : Except DispatchError α) :
    (Verdict.ofResult r).failure?.isSome = true ↔ ∃ reason, r = .error reason := by
  cases r with
  | ok a => simp [Verdict.ofResult, Verdict.failure?]
  | error reason => cases reason <;> simp [Verdict.ofResult, Verdict.failure?]

/-- **The verdict on a step is a failure exactly if it fails.** -/
theorem failure_iff : (e.perform env st s).1.failure?.isSome = true ↔ Fails env e s st := by
  cases hc : e.command? st with
  | some c =>
    rw [perform_of_command env s hc, failure_ofResult]
    constructor
    · intro ⟨reason, h⟩
      exact .refused hc h
    · intro h
      cases h with
      | refused hc' h =>
        obtain rfl : c = _ := Option.some.inj (hc.symm.trans hc')
        exact ⟨_, h⟩
      | astray _ hnone => cases hc.symm.trans hnone
      | undeclared _ | balks _ => cases hc
  | none =>
    cases st with
    | serial action payload =>
      refine (Option.isSome_iff_exists.trans failure_performSerial).trans ⟨.balks, fun h => ?_⟩
      cases h with
      | refused hc' _ | astray hc' _ => cases hc'
      | balks h => exact h
    | speed _ | port _ | read _ _ =>
      rw [perform_of_quiet env s (by simp) hc]
      exact iff_of_true rfl (.astray rfl hc)
    | select label =>
      rw [perform_of_quiet env s (by simp) hc]
      cases hb : e.sequence.aliases.get? label with
      | none => exact iff_of_true (by simp [quiet, hb, Verdict.failure?]) (.undeclared hb)
      | some b =>
        refine iff_of_false (by simp [quiet, hb, Verdict.failure?]) fun h => ?_
        cases h with
        | refused hc' _ | astray hc' _ => cases hc'
        | undeclared h => cases hb.symm.trans h
    | delay _ | cycles _ | finish =>
      rw [perform_of_quiet env s (by simp) hc]
      refine iff_of_false Bool.noConfusion fun h => ?_
      cases h with
      | refused hc' _ | astray hc' _ => cases hc'

end

/-! ### Ticks that count -/

/-- A tick that finds a run running, with what it finds. -/
structure Ticked where
  {σ : Type}
  run : Execution
  env : Surroundings σ
  world : σ

namespace Ticked

/-- The step that is carried out. -/
def step? (t : Ticked) : Option Step := t.run.sequence.steps[t.run.progress.next]?

/-- What the tick tells of. -/
def events (t : Ticked) : List Event := (t.run.tick t.env t.world).1.events

def Passes (t : Ticked) : Prop := ∃ st ∈ t.step?, t.env.Sees t.world st

def Fails (t : Ticked) : Prop := ∃ st ∈ t.step?, t.run.Fails t.env t.world st

/-- What comes of the step. -/
def verdict? (t : Ticked) : Option Verdict := t.step?.map fun st => (t.run.perform t.env st t.world).1

theorem verdict?_eq {σ : Type} {e : Execution} {st : Step} (hst : e.sequence.steps[e.progress.next]? = some st)
    (env : Surroundings σ) (s : σ) : (⟨e, env, s⟩ : Ticked).verdict? = some (e.perform env st s).1 :=
  congrArg (Option.map _) hst

theorem passes_iff (t : Ticked) : t.verdict? = some .passed ↔ t.Passes := by
  simp only [verdict?, Passes, Option.map_eq_some_iff, passed_iff, Option.mem_def]

theorem fails_iff (t : Ticked) : (t.verdict?.bind Verdict.failure?).isSome = true ↔ t.Fails := by
  cases hst : t.step? <;> simp [verdict?, Fails, hst, ← failure_iff]

instance : DecidablePred Passes := fun t => decidable_of_iff _ t.passes_iff

instance : DecidablePred Fails := fun t => decidable_of_iff _ t.fails_iff

/-- **What passes does not fail.** -/
theorem not_fails_of_passes {t : Ticked} (h : t.Passes) : ¬t.Fails := by
  rw [← passes_iff] at h
  rw [← fails_iff, h]
  exact Bool.noConfusion

end Ticked

/-- The tick among the calls, if it finds the run running. -/
def tickedBy (e : Execution) : Call → List Ticked
  | .tick env s => if e.status = .running then [⟨e, env, s⟩] else []
  | _ => []

/-- The ticks among calls that find the run running. -/
def ticked (e : Execution) : List Call → List Ticked
  | [] => []
  | c :: rest => e.tickedBy c ++ (e.called c).ticked rest

end Execution

/-! ### What there is to count -/

/-- A tally accounts for ticks of a run of `n` steps, as far as its counts go. -/
structure Tally.Accounts (tally : Tally) (n : Nat) (done : List Execution.Ticked) : Prop where
  cycles : tally.cycles.toNat = min (done.length / n) 4294967295
  passes : tally.passes.toNat = min (done.countP (·.Passes)) 4294967295
  failures : tally.failures.toNat = min (done.countP (·.Fails)) 4294967295

namespace Tally.Accounts
variable {tally next : Tally} {n k : Nat} {done : List Execution.Ticked} {t : Execution.Ticked}

theorem zero (n : Nat) : Tally.zero.Accounts n [] := ⟨by rw [List.length_nil, Nat.zero_div]; rfl, rfl, rfl⟩

/-- Counting on stays as far as a count goes. -/
theorem countUp_of_eq_min {count : UInt32} (h : count.toNat = min k 4294967295) :
    (countUp count).toNat = min (k + 1) 4294967295 := by
  rw [countUp_eq_min, h]
  omega

/-- Ticks of one kind are counted one by one. -/
theorem countP_concat {p : Execution.Ticked → Prop} [DecidablePred p] {count : UInt32}
    (h : count.toNat = min (done.countP (p ·)) 4294967295) :
    (if p t then countUp count else count).toNat = min ((done ++ [t]).countP (p ·)) 4294967295 := by
  rw [List.countP_append, List.countP_singleton]
  by_cases ht : p t
  · rw [if_pos ht, if_pos (decide_eq_true ht)]
    exact countUp_of_eq_min h
  · rw [if_neg ht, if_neg (by simpa using ht)]
    exact h

/-- **One more tick** is accounted for by counting its cycle, its pass and its failure. -/
theorem concat (h : tally.Accounts n done) (hn : 0 < n)
    (hcycles : next.cycles = if done.length % n + 1 < n then tally.cycles else countUp tally.cycles)
    (hpasses : next.passes = if t.Passes then countUp tally.passes else tally.passes)
    (hfailures : next.failures = if t.Fails then countUp tally.failures else tally.failures) :
    next.Accounts n (done ++ [t]) := by
  refine ⟨?_, ?_, ?_⟩
  · have hplace := place_succ hn done.length
    rw [List.length_append, List.length_singleton, hcycles]
    split at hplace
    next hmore => rw [if_pos hmore, hplace.2]; exact h.cycles
    next hlast => rw [if_neg hlast, hplace.2]; exact countUp_of_eq_min h.cycles
  · rw [hpasses]
    exact countP_concat h.passes
  · rw [hfailures]
    exact countP_concat h.failures

end Tally.Accounts

namespace Execution

/-! ### What a tick tells of -/

section
variable {σ : Type} (env : Surroundings σ) {e : Execution} {st : Step} (s : σ)

theorem tick_cycle (hrun : e.status = .running) (hst : e.sequence.steps[e.progress.next]? = some st) :
    (e.tick env s).1.cycle = if e.progress.next + 1 < e.sequence.steps.length then none
      else some (e.tick env s).2.1.progress.tally := by
  rw [tick_of_step env s hrun hst]
  dsimp only
  rw [advance_cycle, count_next, count_sequence]

theorem cycles_tick (hrun : e.status = .running) (hst : e.sequence.steps[e.progress.next]? = some st) :
    (e.tick env s).2.1.progress.tally.cycles =
      if e.progress.next + 1 < e.sequence.steps.length then e.progress.tally.cycles
      else countUp e.progress.tally.cycles := by
  rw [tick_of_step env s hrun hst]
  dsimp only
  rw [advance_cycles, count_next, count_sequence, count_cycles]

/-- A step itself tells of no failure and of no cycle. -/
theorem perform_events_quiet {event : Event} (h : event ∈ (e.perform env st s).2.1) :
    event.failedAt? = none ∧ event.tally? = none := by
  cases hc : e.command? st with
  | some c =>
    rw [perform_of_command env s hc] at h
    cases List.mem_singleton.mp h
    exact ⟨rfl, rfl⟩
  | none =>
    cases st with
    | serial action payload =>
      obtain ⟨_, _, rfl⟩ | ⟨_, rfl⟩ | ⟨_, rfl⟩ := performSerial_event
        (show event ∈ (performSerial env action payload s).2.1 from h) <;> exact ⟨rfl, rfl⟩
    | _ =>
      rw [perform_of_quiet env s (by simp) hc] at h
      cases h

/-- **A tick tells of its own failure and of its own cycle.** -/
theorem tick_tells (hrun : e.status = .running) (hst : e.sequence.steps[e.progress.next]? = some st) :
    (e.tick env s).1.events.filterMap Event.failedAt? =
        (if (e.perform env st s).1.failure?.isSome then [e.progress.next] else []) ∧
      (e.tick env s).1.events.filterMap Event.tally? = (e.tick env s).1.cycle.toList := by
  have hfailed : (e.perform env st s).2.1.filterMap Event.failedAt? = [] :=
    List.filterMap_eq_nil_iff.mpr fun _ h => (perform_events_quiet env s h).1
  have htally : (e.perform env st s).2.1.filterMap Event.tally? = [] :=
    List.filterMap_eq_nil_iff.mpr fun _ h => (perform_events_quiet env s h).2
  rw [tick_of_step env s hrun hst]
  dsimp only
  rw [List.filterMap_append, List.filterMap_append, List.filterMap_append, List.filterMap_append,
    hfailed, htally]
  generalize ({ e with current := e.selected st }.count (e.perform env st s).1).advance.2 = cycle
  cases (e.perform env st s).1.failure? <;> cases cycle <;> exact ⟨rfl, rfl⟩

end

/-- What a tick tells of in a run of `q` that has ticked `before`. -/
structure Ticked.Reports (q : Sequence) (before : List Ticked) (t : Ticked) : Prop where
  /-- It carries out the step whose turn it is. -/
  step : ∃ st, t.step? = some st ∧ q.steps[before.length % q.steps.length]? = some st
  /-- It tells of a failure, with the place of the step, if the step fails and not otherwise, -/
  failure : t.events.filterMap Event.failedAt? = if t.Fails then [before.length % q.steps.length] else []
  /-- and of a cycle, with the tally as it is after the step, if this was the last step. -/
  cycle : if (before.length + 1) % q.steps.length = 0 then
      ∃ tally, t.events.filterMap Event.tally? = [tally] ∧ tally.Accounts q.steps.length (before ++ [t])
    else t.events.filterMap Event.tally? = []
  apart : ¬(t.Passes ∧ t.Fails)
  /-- A command that was answered counts as neither. -/
  answered : ∀ c reply, .dispatched c (.ok reply) ∈ t.events → ¬t.Passes ∧ ¬t.Fails

/-- A run of `q` that has ticked `done` since it was started. -/
structure Accounted (q : Sequence) (done : List Ticked) (e : Execution) : Prop where
  sequence : e.sequence = q
  next : e.progress.next = done.length % q.steps.length
  tally : e.progress.tally.Accounts q.steps.length done
  steps : e.status = .running → q.steps ≠ []

namespace Accounted
variable {q : Sequence} {done : List Ticked} {e : Execution}

theorem start (e : Execution) : Accounted e.sequence [] e.start where
  sequence := rfl
  next := (Nat.zero_mod _).symm
  tally := .zero _
  steps hrun hnone := by simp [Execution.start, hnone] at hrun

section
variable (h : Accounted q done e) (hrun : e.status = .running)
include h hrun

theorem exists_step : ∃ st, e.sequence.steps[e.progress.next]? = some st := by
  have hpos : 0 < q.steps.length := List.length_pos_iff.mpr (h.steps hrun)
  rw [h.sequence, h.next]
  exact ⟨_, List.getElem?_eq_getElem (Nat.mod_lt _ hpos)⟩

variable {σ : Type} (env : Surroundings σ) (s : σ)

/-- **A tick is counted.** -/
theorem tally_tick : (e.tick env s).2.1.progress.tally.Accounts q.steps.length (done ++ [⟨e, env, s⟩]) := by
  obtain ⟨st, hst⟩ := h.exists_step hrun
  have hverdict := Ticked.verdict?_eq hst env s
  refine h.tally.concat (List.length_pos_iff.mpr (h.steps hrun)) ?_ ?_ ?_
  · rw [cycles_tick env s hrun hst, h.sequence, h.next]
  · simp only [passes_tick hrun hst, ← Ticked.passes_iff, hverdict, Option.some_inj]
  · simp only [failures_tick hrun hst, ← Ticked.fails_iff, hverdict, Option.bind_some]

/-- **A tick tells of what it counts.** -/
theorem reports : Ticked.Reports q done ⟨e, env, s⟩ := by
  obtain ⟨st, hst⟩ := h.exists_step hrun
  have hverdict := Ticked.verdict?_eq hst env s
  obtain ⟨hfailed, htally⟩ := tick_tells env s hrun hst
  refine ⟨⟨st, hst, ?_⟩, ?_, ?_, fun hboth => Ticked.not_fails_of_passes hboth.1 hboth.2,
    fun c reply hc => ?_⟩
  · rw [← h.next, ← h.sequence, hst]
  · simp only [Ticked.events, hfailed, ← Ticked.fails_iff, hverdict, Option.bind_some, h.next]
  · have hplace := place_succ (List.length_pos_iff.mpr (h.steps hrun)) done.length
    have hcycle := tick_cycle env s hrun hst
    rw [h.sequence, h.next] at hcycle
    rw [hcycle] at htally
    split at hplace
    next hmore =>
      rw [if_neg (by omega)]
      rwa [if_pos hmore] at htally
    next hlast =>
      rw [if_pos hplace.1]
      rw [if_neg hlast] at htally
      exact ⟨_, htally, h.tally_tick hrun env s⟩
  · obtain ⟨hcommand, hok⟩ := dispatched_mem_tick hrun hst hc
    rw [← Ticked.passes_iff, ← Ticked.fails_iff, hverdict, perform_of_command env s hcommand, ← hok]
    exact ⟨fun hp => Verdict.noConfusion (Option.some.inj hp), Bool.noConfusion⟩

end

/-- **Every call but a start** keeps the account. -/
theorem called (h : Accounted q done e) {c : Call} (hc : c ≠ .start) :
    Accounted q (done ++ e.tickedBy c) (e.called c) := by
  by_cases hrun : e.status = .running
  · cases c with
    | start => exact absurd rfl hc
    | stop reason =>
      have hstop : e.called (.stop reason) = { e with status := .stopped reason } := if_pos hrun
      show Accounted q (done ++ []) (e.called (.stop reason))
      rw [List.append_nil, hstop]
      exact ⟨h.sequence, h.next, h.tally, fun hrun => RunStatus.noConfusion hrun⟩
    | tick env s =>
      obtain ⟨st, hst⟩ := h.exists_step hrun
      obtain ⟨-, -, hsequence, -, hnext⟩ := tick_spec env s hrun hst
      have hplace := place_succ (List.length_pos_iff.mpr (h.steps hrun)) done.length
      rw [tickedBy, if_pos hrun]
      refine ⟨hsequence.trans h.sequence, ?_, h.tally_tick hrun env s, fun _ => h.steps hrun⟩
      rw [h.sequence, h.next] at hnext
      rw [List.length_append, List.length_singleton]
      refine hnext.trans ?_
      split at hplace
      next hmore => rw [if_pos hmore, hplace.1]
      next hlast => rw [if_neg hlast, hplace.1]
  · have hnone : e.tickedBy c = [] := by
      cases c with
      | tick env s => exact if_neg hrun
      | _ => rfl
    rw [hnone, List.append_nil, called_of_not_running hrun hc]
    exact h

/-- **Call after call** the account is kept, -/
theorem after (h : Accounted q done e) {calls : List Call} (hcalls : .start ∉ calls) :
    Accounted q (done ++ e.ticked calls) (e.after calls) := by
  induction calls generalizing done e with
  | nil => rwa [ticked, List.append_nil]
  | cons c rest ih =>
    rw [List.mem_cons, not_or] at hcalls
    rw [ticked, ← List.append_assoc]
    exact ih (h.called (Ne.symm hcalls.1)) hcalls.2

/-- and what every tick tells of is in accord with it. -/
theorem reports_after (h : Accounted q done e) {calls : List Call} (hcalls : .start ∉ calls)
    {before later : List Ticked} {t : Ticked} (ht : e.ticked calls = before ++ t :: later) :
    t.Reports q (done ++ before) := by
  induction calls generalizing done e before with
  | nil => simp [ticked] at ht
  | cons c rest ih =>
    rw [List.mem_cons, not_or] at hcalls
    have hnext := h.called (Ne.symm hcalls.1)
    rw [ticked] at ht
    -- Either the first call ticks and is the tick in question, or the tick is among the later ones.
    by_cases hfirst : e.tickedBy c = []
    · rw [hfirst, List.append_nil] at hnext
      rw [hfirst, List.nil_append] at ht
      exact ih hnext hcalls.2 ht
    · cases c with
      | tick env s =>
        have hrun : e.status = .running := by
          refine Decidable.byContradiction fun hrest => hfirst ?_
          exact if_neg hrest
        rw [tickedBy, if_pos hrun] at ht hnext
        cases before with
        | nil =>
          obtain ⟨rfl, -⟩ := List.cons.inj ht
          rw [List.append_nil]
          exact h.reports hrun env s
        | cons first before =>
          obtain ⟨rfl, hrest⟩ := List.cons.inj ht
          rw [List.append_cons]
          exact ih hnext hcalls.2 hrest
      | _ => exact absurd rfl hfirst

end Accounted

/-- **The counts of a run account for every step** that it has carried out since it was started,
and what its ticks have told of accords with them. -/
theorem start_accounts (e : Execution) {calls : List Call} (hcalls : .start ∉ calls) :
    (e.start.after calls).progress.tally.Accounts e.sequence.steps.length (e.start.ticked calls) ∧
      ∀ before t later, e.start.ticked calls = before ++ t :: later → t.Reports e.sequence before := by
  have hstart := Accounted.start e
  refine ⟨(hstart.after hcalls).tally, fun before t later ht => ?_⟩
  exact hstart.reports_after hcalls ht

/-- A text is seen, an order is for nobody, the text is seen again, and the run is stopped. -/
theorem start_accounts_expecting :
    let console : Console Unit :=
      ⟨fun _ _ s => (.ok (), s), fun _ s => (.ok (), s), fun _ s => (.ok true, s)⟩
    let env : Surroundings Unit := { Surroundings.silent with console := some console }
    let e := ready ⟨[.serial .expect "up", .port 1], .empty⟩ 1 true
    let calls : List Call := [.tick env (), .tick env (), .tick env (), .stop .manual, .tick env ()]
    .start ∉ calls ∧ (e.start.ticked calls).length = 3 ∧ (e.start.after calls).progress.tally = ⟨1, 2, 1⟩ ∧
      (e.start.after calls).progress.tally.Accounts 2 (e.start.ticked calls) ∧
      ∀ before t later, e.start.ticked calls = before ++ t :: later → t.Reports e.sequence before := by
  intro console env e calls
  have hcalls : .start ∉ calls := by simp [calls]
  have hlength : (e.start.ticked calls).length = 3 := by decide
  have htally : (e.start.after calls).progress.tally = ⟨1, 2, 1⟩ := by decide
  obtain ⟨haccounts, hreports⟩ := start_accounts e hcalls
  exact ⟨hcalls, hlength, htally, haccounts, hreports⟩

end Execution

end SwitchBench
