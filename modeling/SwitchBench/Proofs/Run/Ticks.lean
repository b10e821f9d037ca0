import SwitchBench.Run.Execution

/-! What a tick does.

A tick of a run that is running carries out the step that is next. Whatever comes of
the step, the tick puts to the sink the command that the step stands for and no other,
waits for as long as the step says, and selects the switch that the step selects; then
the next step is due, or the first one after the last. What holds of every tick holds of
a run: it keeps what its commands keep, and is the same wherever they are answered alike. -/
namespace SwitchBench

/-- The command that an event tells of. -/
def Event.command? : Event → Option Command
  | .dispatched c _ => some c
  | _ => none

/-- The commands that a tick has put to the sink. -/
def Tick.commands (t : Tick) : List Command := t.events.filterMap Event.command?

/-- How long a step that is a delay lasts. -/
def Step.delay? : Step → Option UInt64
  | .delay ms => some ms
  | _ => none

/-- Whatever is done with the console, it keeps a property of the state. -/
structure Console.Keeps {σ : Type} (console : Console σ) (I : σ → Prop) : Prop where
  connect : ∀ path baud s, I s → I (console.connect path baud s).2
  write : ∀ text s, I s → I (console.write text s).2
  expect : ∀ text s, I s → I (console.expect text s).2

namespace Execution

/-! ### Counting and going on -/

section
variable (e : Execution) (v : Verdict)

@[simp] theorem stop_sequence (r : StopReason) : (e.stop r).sequence = e.sequence := by
  unfold stop
  split <;> rfl

@[simp] theorem stop_untilStopped (r : StopReason) : (e.stop r).untilStopped = e.untilStopped := by
  unfold stop
  split <;> rfl

@[simp] theorem stop_current (r : StopReason) : (e.stop r).current = e.current := by
  unfold stop
  split <;> rfl

@[simp] theorem stop_progress (r : StopReason) : (e.stop r).progress = e.progress := by
  unfold stop
  split <;> rfl

@[simp] theorem count_sequence : (e.count v).sequence = e.sequence := by
  cases v <;> simp [count]

@[simp] theorem count_untilStopped : (e.count v).untilStopped = e.untilStopped := by
  cases v <;> simp [count]

@[simp] theorem count_current : (e.count v).current = e.current := by
  cases v <;> simp [count]

@[simp] theorem count_next : (e.count v).progress.next = e.progress.next := by
  cases v <;> simp [count]

@[simp] theorem count_interval : (e.count v).progress.interval = e.progress.interval := by
  cases v <;> simp [count]

@[simp] theorem count_cycles : (e.count v).progress.tally.cycles = e.progress.tally.cycles := by
  cases v <;> simp [count]

/-- Only a fault stops a run. -/
theorem count_status {v : Verdict} (h : ∀ m, v ≠ .fault m) : (e.count v).status = e.status := by
  cases v with
  | fault m => exact absurd rfl (h m)
  | _ => rfl

/-- A fault is counted as a failure and stops the run. -/
theorem count_fault {e : Execution} (hrun : e.status = .running) (m : String) :
    e.count (.fault m) = { e with
      status := .stopped .fault
      progress := { e.progress with
        tally := { e.progress.tally with failures := countUp e.progress.tally.failures } } } := by
  simp only [count, stop]
  rw [if_pos hrun]

/-- The tally at the end of a cycle. -/
def cycled : Tally := { e.progress.tally with cycles := countUp e.progress.tally.cycles }

/-- After the last step the first one is next and a cycle is counted; it was the last one
of a run that is not to go on if as many were asked for. -/
theorem advance_eq : e.advance =
    if e.progress.next + 1 < e.sequence.steps.length then
      ({ e with progress := { e.progress with next := e.progress.next + 1 } }, none)
    else
      ({ e with
        progress := ⟨0, e.cycled, e.progress.interval⟩
        status :=
          if e.status = .running ∧ e.untilStopped = false ∧ e.sequence.cycles ≤ e.cycled.cycles then
            .completed
          else e.status }, some e.cycled) := by
  unfold advance
  split
  · rfl
  · by_cases hlast : e.status = .running ∧ e.untilStopped = false ∧
      e.sequence.cycles ≤ countUp e.progress.tally.cycles
    · simp [isSated, cycled, hlast]
    · simp only [isSated, cycled, Bool.and_eq_true, Bool.not_eq_true', decide_eq_true_eq, hlast, if_false]

@[simp] theorem advance_sequence : e.advance.1.sequence = e.sequence := by
  rw [advance_eq]
  split <;> rfl

@[simp] theorem advance_current : e.advance.1.current = e.current := by
  rw [advance_eq]
  split <;> rfl

@[simp] theorem advance_passes : e.advance.1.progress.tally.passes = e.progress.tally.passes := by
  rw [advance_eq]
  split <;> rfl

@[simp] theorem advance_failures : e.advance.1.progress.tally.failures = e.progress.tally.failures := by
  rw [advance_eq]
  split <;> rfl

/-- Only a run that is running is completed. -/
theorem advance_status {e : Execution} (h : e.status ≠ .running) : e.advance.1.status = e.status := by
  rw [advance_eq]
  split
  · rfl
  · exact if_neg fun hlast => h hlast.1

theorem advance_next : e.advance.1.progress.next =
    if e.progress.next + 1 < e.sequence.steps.length then e.progress.next + 1 else 0 := by
  rw [advance_eq]
  split <;> rfl

theorem advance_cycles : e.advance.1.progress.tally.cycles =
    if e.progress.next + 1 < e.sequence.steps.length then e.progress.tally.cycles
    else countUp e.progress.tally.cycles := by
  rw [advance_eq]
  split <;> rfl

/-- The tally that is told of at the end of a cycle is the one that the run goes on with. -/
theorem advance_cycle : e.advance.2 =
    if e.progress.next + 1 < e.sequence.steps.length then none else some e.advance.1.progress.tally := by
  rw [advance_eq]
  split <;> rfl

end

/-! ### One tick -/

section
variable {σ : Type} (env : Surroundings σ) {e : Execution} {st : Step} (s : σ)

/-- A run that is not running does nothing. -/
theorem tick_of_not_running (h : e.status ≠ .running) : e.tick env s = (⟨0, none, []⟩, e, s) := by
  unfold tick
  rw [if_pos h]

/-- A run without a step that is next is completed. -/
theorem tick_of_no_step (hrun : e.status = .running)
    (hst : e.sequence.steps[e.progress.next]? = none) :
    e.tick env s = (⟨0, none, []⟩, { e with status := .completed }, s) := by
  unfold tick
  rw [if_neg (fun h => h hrun)]
  simp only [hst]

/-- A run that is running carries out its next step. -/
theorem tick_of_step (hrun : e.status = .running) (hst : e.sequence.steps[e.progress.next]? = some st) :
    e.tick env s =
      let r := e.perform env st s
      let after := ({ e with current := e.selected st }.count r.1).advance
      (⟨e.waitAfter r.1, after.2, r.2.1 ++ r.1.failure?.toList.map (.stepFailed e.progress.next) ++
        after.2.toList.map .cycleCompleted⟩, after.1, r.2.2) := by
  unfold tick
  rw [if_neg (fun h => h hrun)]
  simp only [hst]

/-- A step that stands for a command is what the sink makes of the command. -/
theorem perform_of_command {c : Command} (h : e.command? st = some c) : e.perform env st s =
    (.ofResult (env.sink c s).1, [.dispatched c (env.sink c s).1], (env.sink c s).2) := by
  unfold perform
  rw [h]
  cases st with
  | serial action payload => cases h
  | _ => rfl

/-- Any other step that is not for the console is settled without the sink. -/
theorem perform_of_quiet (hserial : ∀ action payload, st ≠ .serial action payload)
    (h : e.command? st = none) : e.perform env st s = (e.quiet st, [], s) := by
  unfold perform
  rw [h]
  cases st with
  | serial action payload => exact absurd rfl (hserial action payload)
  | _ => rfl

theorem performSerial_commands (action : SerialAction) (payload : String) :
    (performSerial env action payload s).2.1.filterMap Event.command? = [] := by
  unfold performSerial
  cases env.console with
  | none => rfl
  | some console => cases action <;> rfl

/-- A step puts to the sink the command that it stands for. -/
theorem perform_commands (e : Execution) (st : Step) :
    (e.perform env st s).2.1.filterMap Event.command? = (e.command? st).toList := by
  cases hc : e.command? st with
  | some c =>
    rw [perform_of_command env s hc]
    rfl
  | none =>
    cases st with
    | serial action payload => exact performSerial_commands env s action payload
    | _ => rw [perform_of_quiet env s (by simp) hc]; rfl

/-! A predicate holds of the verdict on a step if it holds of all that can come of it. -/

section
variable {P : Verdict → Prop} (hdone : P .done) (hpassed : P .passed) (hfailed : ∀ m, P (.failed m))

include hfailed in
theorem ofConsole_verdict {α : Type} {f : α → Verdict} (r : Except String α) (h : ∀ a, P (f a)) :
    P (.ofConsole f r) := by
  cases r with
  | error reason => exact hfailed _
  | ok a => exact h a

include hdone hpassed hfailed in
theorem performSerial_verdict (action : SerialAction) (payload : String) :
    P (performSerial env action payload s).1 := by
  unfold performSerial
  cases env.console with
  | none => exact hfailed _
  | some console =>
    cases action with
    | connect | write => exact ofConsole_verdict hfailed _ fun _ => hdone
    | expect =>
      refine ofConsole_verdict hfailed _ fun seen => ?_
      cases seen with
      | true => exact hpassed
      | false => exact hfailed _

include hdone hfailed in
theorem ofResult_verdict {α : Type} (r : Except DispatchError α)
    (hfault : r = .error .interlock → P (.fault DispatchError.interlock.message)) :
    P (.ofResult r) := by
  cases r with
  | ok a => exact hdone
  | error reason =>
    cases reason with
    | interlock => exact hfault rfl
    | _ => exact hfailed _

include hdone hpassed hfailed in
/-- Only the interlock faults a step. -/
theorem perform_verdict (e : Execution) (hst : st.delay? = none)
    (hfault : ∀ c, e.command? st = some c → (env.sink c s).1 = .error .interlock →
      P (.fault DispatchError.interlock.message)) : P (e.perform env st s).1 := by
  cases hc : e.command? st with
  | some c =>
    rw [perform_of_command env s hc]
    exact ofResult_verdict hdone hfailed _ (hfault c hc)
  | none =>
    cases st with
    | serial action payload => exact performSerial_verdict env s hdone hpassed hfailed action payload
    | delay ms => cases hst
    | select label =>
      rw [perform_of_quiet env s (by simp) hc]
      unfold quiet
      dsimp only
      split
      · exact hdone
      · exact hfailed _
    | speed _ | port _ | read _ _ =>
      rw [perform_of_quiet env s (by simp) hc]
      exact hfailed _
    | cycles _ | finish =>
      rw [perform_of_quiet env s (by simp) hc]
      exact hdone

end

/-- A tick waits for the length of a delay, and otherwise for the interval. -/
theorem waitAfter_perform (e f : Execution) (st : Step) :
    f.waitAfter (e.perform env st s).1 = st.delay?.getD f.progress.interval := by
  cases hst : st.delay? with
  | some ms =>
    cases st with
    | delay ms => cases hst; rfl
    | _ => cases hst
  | none =>
    exact perform_verdict (P := fun v => f.waitAfter v = f.progress.interval) env s rfl rfl
      (fun _ => rfl) e hst fun _ _ _ => rfl

/-- A sink without an interlock faults no step. -/
theorem perform_ne_fault (hfree : ∀ c s, (env.sink c s).1 ≠ .error .interlock) (e : Execution)
    (st : Step) (m : String) : (e.perform env st s).1 ≠ .fault m := by
  cases hst : st.delay? with
  | some ms =>
    cases st with
    | delay ms => exact fun h => Verdict.noConfusion h
    | _ => cases hst
  | none =>
    exact perform_verdict (P := (· ≠ .fault m)) env s (fun h => Verdict.noConfusion h)
      (fun h => Verdict.noConfusion h) (fun _ h => Verdict.noConfusion h) e hst
      fun c _ hc => absurd hc (hfree c s)

/-- **What a tick does**, whatever comes of its step. -/
theorem tick_spec (hrun : e.status = .running) (hst : e.sequence.steps[e.progress.next]? = some st) :
    (e.tick env s).1.commands = (e.command? st).toList ∧
      (e.tick env s).1.wait = st.delay?.getD e.progress.interval ∧
      (e.tick env s).2.1.sequence = e.sequence ∧
      (e.tick env s).2.1.current = e.selected st ∧
      (e.tick env s).2.1.progress.next =
        if e.progress.next + 1 < e.sequence.steps.length then e.progress.next + 1 else 0 := by
  rw [tick_of_step env s hrun hst]
  refine ⟨?_, waitAfter_perform env s e e st, by simp, by simp, by simp [advance_next]⟩
  have hnone : ∀ f : Option String, ((f.toList.map (Event.stepFailed e.progress.next)).filterMap
      Event.command?) = [] := by
    intro f
    cases f <;> rfl
  have hcycle : ∀ t : Option Tally, ((t.toList.map Event.cycleCompleted).filterMap
      Event.command?) = [] := by
    intro t
    cases t <;> rfl
  simp only [Tick.commands, List.filterMap_append, perform_commands, hnone, hcycle, List.append_nil]

end

/-! ### Tick after tick -/

section
variable {σ : Type} (env : Surroundings σ) {e : Execution}

/-- A run that is not running has no more ticks. -/
theorem ticks_of_not_running (h : e.status ≠ .running) (n : Nat) (s : σ) :
    e.ticks env n s = ([], e, s) := by
  cases n with
  | zero => rfl
  | succ n => rw [ticks, if_pos h]

theorem ticks_succ (h : e.status = .running) (n : Nat) (s : σ) : e.ticks env (n + 1) s =
    ((e.tick env s).1 :: ((e.tick env s).2.1.ticks env n (e.tick env s).2.2).1,
      ((e.tick env s).2.1.ticks env n (e.tick env s).2.2).2) := by
  rw [ticks, if_neg (fun hne => hne h)]

theorem ticks_add (e : Execution) (m n : Nat) (s : σ) : e.ticks env (m + n) s =
    ((e.ticks env m s).1 ++ ((e.ticks env m s).2.1.ticks env n (e.ticks env m s).2.2).1,
      ((e.ticks env m s).2.1.ticks env n (e.ticks env m s).2.2).2) := by
  induction m generalizing e s with
  | zero => rw [Nat.zero_add]; rfl
  | succ m ih =>
    by_cases hrun : e.status = .running
    · rw [Nat.succ_add, ticks_succ env hrun, ticks_succ env hrun, ih]
      rfl
    · rw [ticks_of_not_running env hrun, ticks_of_not_running env hrun,
        ticks_of_not_running env hrun]
      rfl

/-- A command of a run sets a port or a speed, or reads. -/
theorem command?_cases {e : Execution} {st : Step} {c : Command} (h : e.command? st = some c) :
    (∃ id n, st = .port n ∧ e.current = some id ∧ c = .port id n) ∨
      (∃ id mode, c = .speed id mode) ∨ ∃ id p, c = .read id p := by
  cases st with
  | port n =>
    obtain ⟨id, hid, rfl⟩ := Option.map_eq_some_iff.mp h
    exact .inl ⟨id, n, rfl, hid, rfl⟩
  | speed mode =>
    obtain ⟨id, -, rfl⟩ := Option.map_eq_some_iff.mp h
    exact .inr (.inl ⟨id, mode, rfl⟩)
  | read label p =>
    obtain ⟨b, -, rfl⟩ := Option.map_eq_some_iff.mp h
    exact .inr (.inr ⟨b.id, p, rfl⟩)
  | _ => cases h

/-! What the commands of a run and its console keep is kept by the run. -/

section
variable {I : σ → Prop}
  (hsink : ∀ (e : Execution) st c s, e.command? st = some c → I s → I (env.sink c s).2)
  (hconsole : ∀ console ∈ env.console, console.Keeps I)
include hsink hconsole

theorem perform_keeps (e : Execution) (st : Step) {s : σ} (h : I s) : I (e.perform env st s).2.2 := by
  cases hc : e.command? st with
  | some c =>
    rw [perform_of_command env s hc]
    exact hsink e st c s hc h
  | none =>
    cases st with
    | serial action payload =>
      show I (performSerial env action payload s).2.2
      unfold performSerial
      cases hpresent : env.console with
      | none => exact h
      | some console =>
        have hkeeps := hconsole console hpresent
        cases action with
        | connect => exact hkeeps.connect _ _ _ h
        | write => exact hkeeps.write _ _ h
        | expect => exact hkeeps.expect _ _ h
    | _ => rw [perform_of_quiet env s (by simp) hc]; exact h

theorem tick_keeps (e : Execution) {s : σ} (h : I s) : I (e.tick env s).2.2 := by
  by_cases hrun : e.status = .running
  · cases hst : e.sequence.steps[e.progress.next]? with
    | none => rw [tick_of_no_step env s hrun hst]; exact h
    | some st => rw [tick_of_step env s hrun hst]; exact perform_keeps env hsink hconsole e st h
  · rw [tick_of_not_running env s hrun]
    exact h

theorem ticks_keeps (e : Execution) (n : Nat) {s : σ} (h : I s) : I (e.ticks env n s).2.2 := by
  induction n generalizing e s with
  | zero => exact h
  | succ n ih =>
    by_cases hrun : e.status = .running
    · rw [ticks_succ env hrun]
      exact ih _ (tick_keeps env hsink hconsole e h)
    · rw [ticks_of_not_running env hrun]
      exact h

end

/-! Where two sinks answer the commands of a run alike, the run is the same. -/

section
variable {env other : Surroundings σ} (hconsole : env.console = other.console)
include hconsole

theorem perform_congr {e : Execution} {st : Step} {s : σ}
    (h : ∀ c, e.command? st = some c → env.sink c s = other.sink c s) :
    e.perform env st s = e.perform other st s := by
  cases hc : e.command? st with
  | some c => rw [perform_of_command env s hc, perform_of_command other s hc, h c hc]
  | none =>
    cases st with
    | serial action payload =>
      show performSerial env action payload s = performSerial other action payload s
      unfold performSerial
      rw [hconsole]
    | _ => rw [perform_of_quiet env s (by simp) hc, perform_of_quiet other s (by simp) hc]

theorem tick_congr {e : Execution} {s : σ}
    (h : ∀ c ∈ (e.tick env s).1.commands, env.sink c s = other.sink c s) :
    e.tick env s = e.tick other s := by
  by_cases hrun : e.status = .running
  · cases hst : e.sequence.steps[e.progress.next]? with
    | none => rw [tick_of_no_step env s hrun hst, tick_of_no_step other s hrun hst]
    | some st =>
      rw [(tick_spec env s hrun hst).1] at h
      have hperform := perform_congr hconsole fun c hc => h c (by rw [hc]; exact List.mem_singleton_self c)
      rw [tick_of_step env s hrun hst, tick_of_step other s hrun hst, hperform]
  · rw [tick_of_not_running env s hrun, tick_of_not_running other s hrun]

theorem ticks_congr (e : Execution) (n : Nat) (s : σ)
    (h : ∀ t ∈ (e.ticks env n s).1, ∀ c ∈ t.commands, ∀ s, env.sink c s = other.sink c s) :
    e.ticks env n s = e.ticks other n s := by
  induction n generalizing e s with
  | zero => rfl
  | succ n ih =>
    by_cases hrun : e.status = .running
    · rw [ticks_succ env hrun] at h
      have hfirst := tick_congr hconsole fun c hc => h _ (List.mem_cons_self ..) c hc s
      rw [ticks_succ env hrun, ticks_succ other hrun, ← hfirst,
        ih _ _ fun t ht => h t (List.mem_cons_of_mem _ ht)]
    · rw [ticks_of_not_running env hrun, ticks_of_not_running other hrun]

end

end

/-! ### Runs -/

/-- What a run of a sequence can come to, whatever it acts on at each tick. -/
inductive Reached (q : Sequence) : Execution → Prop
  | ready (interval : UInt64) (untilStopped : Bool) : Reached q (.ready q interval untilStopped)
  | start {e : Execution} (h : Reached q e) : Reached q e.start
  | stop {e : Execution} (reason : StopReason) (h : Reached q e) : Reached q (e.stop reason)
  | tick {e : Execution} {σ : Type} (env : Surroundings σ) (s : σ) (h : Reached q e) :
    Reached q (e.tick env s).2.1

theorem Reached.ticks {q : Sequence} {e : Execution} (h : Reached q e) {σ : Type}
    (env : Surroundings σ) (n : Nat) (s : σ) : Reached q (e.ticks env n s).2.1 := by
  induction n generalizing e s with
  | zero => exact h
  | succ n ih =>
    by_cases hrun : e.status = .running
    · rw [ticks_succ env hrun]
      exact ih (h.tick env s) _
    · rw [ticks_of_not_running env hrun]
      exact h

end Execution

end SwitchBench
