import SwitchBench.Run.Execution

/-! Runs in the background, one at a time.

A run has a thread of its own, which ticks and waits in turn. The runner has one
slot for the run that calls refer to. Starting a run checks the slot, looks for the
switches that the run takes with the slot unlocked, checks the slot again, empties it
and, once there is a thread for the new run, fills it. Without a thread the slot stays
empty, and nobody can wait any longer for the run that was in it. Waiting for a run
takes it out of the slot and only then waits for its thread.

`Run.step` is one step of a thread; the functions of `Runner` are the steps that
calls take while they hold the slot. -/
namespace SwitchBench

/-- Where the thread of a run stands. -/
inductive RunStage where
  /-- Accepted and not begun. -/
  | fresh
  /-- A tick is due. -/
  | due
  /-- In the wait after a tick. -/
  | waiting (milliseconds : UInt64)
  /-- No longer running; the summary is due. -/
  | closing
  | over (summary : Summary)
  | crashed
deriving DecidableEq

/-- A run that was accepted. -/
structure Run where
  execution : Execution
  stage : RunStage
  /-- Whether the run was asked to stop. -/
  stopAsked : Bool
deriving DecidableEq

structure RunOptions where
  untilStopped : Bool
  /-- The wait after a step that is no delay, in milliseconds. -/
  interval : UInt64
deriving DecidableEq

namespace RunOptions

/-- A run of as many cycles as its sequence asks for, with a short wait after each
step. -/
def standard : RunOptions := ⟨false, 1⟩

/-- A wait in milliseconds, cut down to 64 bits. -/
def capped (milliseconds : Nat) : UInt64 := .ofNat (min milliseconds 18446744073709551615)

end RunOptions

namespace Run

def accepted (sequence : Sequence) (options : RunOptions) : Run :=
  ⟨.ready sequence options.interval options.untilStopped, .fresh, false⟩

/-- Whether the thread has ended, in whatever way. -/
def isOver (r : Run) : Bool :=
  match r.stage with
  | .over _ | .crashed => true
  | .fresh | .due | .waiting _ | .closing => false

/-- What the thread leaves behind. -/
def outcome? (r : Run) : Option (Except RunError Summary) :=
  match r.stage with
  | .over summary => some (.ok summary)
  | .crashed => some (.error .crashed)
  | .fresh | .due | .waiting _ | .closing => none

/-- The command that the next tick puts to the sink. -/
def command? (r : Run) : Option Command :=
  (r.execution.sequence.steps[r.execution.progress.next]?).bind r.execution.command?

/-- One step of the thread. A wait ends when the run is asked to stop or else when
its time is up. -/
def step {σ : Type} (env : Surroundings σ) (r : Run) (s : σ) : List Event × Run × σ :=
  match r.stage with
  | .fresh =>
    let e := r.execution.start
    ([.runStarted e.sequence.steps.length e.sequence.cycles e.untilStopped],
      { r with execution := e, stage := if e.status = .running then .due else .closing }, s)
  | .due =>
    if (r.command?.map (env.crashes · s)).getD false then ([], { r with stage := .crashed }, s)
    else
      let (t, e, s) := r.execution.tick env s
      let stage := if e.status = .running then .waiting t.wait else .closing
      (t.events, { r with execution := e, stage }, s)
  | .waiting _ =>
    if r.stopAsked then
      ([], { r with execution := r.execution.stop .manual, stage := .closing }, s)
    else ([], { r with stage := .due }, s)
  | .closing =>
    let summary : Summary := ⟨r.execution.status, r.execution.progress⟩
    ([.runFinished summary], { r with stage := .over summary }, s)
  | .over _ | .crashed => ([], r, s)

/-- A thread that has ended takes no step. -/
theorem step_of_isOver {σ : Type} {env : Surroundings σ} {r : Run} {s : σ} (h : r.isOver = true) :
    r.step env s = ([], r, s) := by
  unfold isOver at h
  unfold step
  split at h
  next hstage => rw [hstage]
  next hstage => rw [hstage]
  all_goals cases h

/-- The thread up to its end, `n` steps at most. -/
def drive {σ : Type} (env : Surroundings σ) : Nat → Run → σ → List Event × Run × σ
  | 0, r, s => ([], r, s)
  | n + 1, r, s =>
    if r.isOver then ([], r, s)
    else
      let (events, r, s) := r.step env s
      let (rest, r, s) := drive env n r s
      (events ++ rest, r, s)

end Run

structure Runner where
  /-- Every run that was accepted, in order. -/
  runs : List Run
  /-- The run that calls refer to. -/
  slot : Option Nat
deriving DecidableEq

namespace Runner

/-- A runner that has run nothing. -/
def new : Runner := ⟨[], none⟩

/-- The run in the slot. -/
def active? (r : Runner) : Option Run := r.slot.bind (r.runs[·]?)

def isRunning (r : Runner) : Bool := r.active?.any fun run => !run.isOver

/-- Refuses while the run in the slot goes on. -/
def checkIdle (r : Runner) : Except RunError Unit :=
  if r.isRunning then .error .alreadyRunning else .ok ()

/-- Asks the run in the slot to stop. A run that is over takes no notice. -/
def stop (r : Runner) : Except RunError Runner :=
  match r.slot with
  | some i => .ok { r with runs := r.runs.modify i fun run => { run with stopAsked := true } }
  | none => .error .notStarted

/-- Takes the run out of the slot, to wait for its thread. -/
def take (r : Runner) : Except RunError (Nat × Runner) :=
  match r.slot with
  | some i => .ok (i, { r with slot := none })
  | none => .error .notStarted

/-- What the thread of a run leaves behind, once it has ended. -/
def outcome? (r : Runner) (i : Nat) : Option (Except RunError Summary) := (r.runs[i]?).bind (·.outcome?)

section
variable {σ : Type} (env : Surroundings σ)

/-- Checks the slot once more, empties it and fills it if there is a thread for the run. -/
def store (r : Runner) (sequence : Sequence) (options : RunOptions) (s : σ) : Except RunError Unit × Runner × σ :=
  if r.isRunning then (.error .alreadyRunning, r, s)
  else match env.thread s with
    | (.ok (), s) => (.ok (), ⟨r.runs ++ [.accepted sequence options], some r.runs.length⟩, s)
    | (.error e, s) => (.error (.noThread e), { r with slot := none }, s)

/-- Reads the status of switches in order, up to the first that fails. -/
def lookFor (s : σ) : List SwitchId → Except RunError Unit × List Event × σ
  | [] => (.ok (), [], s)
  | id :: rest =>
    let (result, s) := env.sink (.read id .status) s
    match result with
    | .ok _ =>
      let (found, events, s) := lookFor s rest
      (found, .dispatched (.read id .status) result :: events, s)
    | .error e => (.error (.missingSwitch id e), [.dispatched (.read id .status) result], s)

/-- Looks for the switches that a sequence takes and reports when one is missing. -/
def preflight (sequence : Sequence) (s : σ) : Except RunError Unit × List Event × σ :=
  match lookFor env s sequence.requiredIds with
  | (.ok (), events, s) => (.ok (), events, s)
  | (.error e, events, s) => (.error e, events ++ [.runRejected e], s)

/-- Starts a run, with nothing else going on meanwhile. -/
def start (r : Runner) (sequence : Sequence) (options : RunOptions) (s : σ) :
    Except RunError Unit × List Event × Runner × σ :=
  match r.checkIdle with
  | .error e => (.error e, [], r, s)
  | .ok () =>
    if sequence.steps.isEmpty then (.error .emptySequence, [], r, s)
    else match preflight env sequence s with
      | (.error e, events, s) => (.error e, events, r, s)
      | (.ok (), events, s) =>
        let (result, r, s) := r.store env sequence options s
        (result, events, r, s)

/-- One step of the thread of run `i`. -/
def advance (r : Runner) (i : Nat) (s : σ) : List Event × Runner × σ :=
  match r.runs[i]? with
  | some run =>
    let (events, run, s) := run.step env s
    (events, { r with runs := r.runs.set i run }, s)
  | none => ([], r, s)

/-- The thread of run `i` up to its end, `n` steps at most. -/
def drive (n : Nat) (r : Runner) (i : Nat) (s : σ) : List Event × Runner × σ :=
  match r.runs[i]? with
  | some run =>
    let (events, run, s) := run.drive env n s
    (events, { r with runs := r.runs.set i run }, s)
  | none => ([], r, s)

/-- Waits for the run in the slot, whose thread takes `n` steps at most. -/
def wait (n : Nat) (r : Runner) (s : σ) : Option (Except RunError Summary) × List Event × Runner × σ :=
  match r.take with
  | .error e => (some (.error e), [], r, s)
  | .ok (i, r) =>
    let (events, r, s) := r.drive env n i s
    (r.outcome? i, events, r, s)

/-- Starts a run and waits for it. -/
def run (n : Nat) (r : Runner) (sequence : Sequence) (options : RunOptions) (s : σ) :
    Option (Except RunError Summary) × List Event × Runner × σ :=
  match r.start env sequence options s with
  | (.error e, events, r, s) => (some (.error e), events, r, s)
  | (.ok (), events, r, s) =>
    let (outcome, rest, r, s) := wait env n r s
    (outcome, events ++ rest, r, s)

end

end Runner

/-- A thread that is to run a sequence as often as it asks takes no more steps than
this. -/
def Sequence.threadSteps (s : Sequence) : Nat := 2 * s.cycles.toNat * s.steps.length + 3

end SwitchBench
