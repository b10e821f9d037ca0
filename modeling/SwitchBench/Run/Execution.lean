import SwitchBench.Dispatch.Sink
import SwitchBench.Run.Event
import SwitchBench.Script.Sequence

/-! Running a batch step by step.

A tick carries out one step and says how long to wait before the next. The last
step of a sequence ends a cycle; after as many cycles as the sequence asks for the
run is completed, unless it is to go on until it is stopped. A step that fails is
counted and reported, and the run goes on; only a port command that the interlock
refuses stops it. -/
namespace SwitchBench

/-- A serial console in a state. Failures are given in words. -/
structure Console (σ : Type) where
  connect : String → Option UInt32 → σ → Except String Unit × σ
  write : String → σ → Except String Unit × σ
  /-- Whether a text is among what the console has said. -/
  expect : String → σ → Except String Bool × σ

/-- What a run acts on, and where its thread comes from. -/
structure Surroundings (σ : Type) where
  sink : Sink σ
  console : Option (Console σ)
  /-- Whether a command brings down whoever puts it to the sink. -/
  crashes : Command → σ → Bool
  /-- A thread for a run, if there is one to be had. -/
  thread : σ → Except SystemError Unit × σ := fun s => (.ok (), s)

/-- What comes of a step. -/
inductive Verdict where
  | done
  | wait (milliseconds : UInt64)
  | passed
  | failed (message : String)
  /-- The interlock refused the step. -/
  | fault (message : String)
deriving DecidableEq

namespace Verdict

def ofResult {α : Type} : Except DispatchError α → Verdict
  | .ok _ => done
  | .error .interlock => fault DispatchError.interlock.message
  | .error e => failed e.message

/-- Why the step was not carried out. -/
def failure? : Verdict → Option String
  | failed message | fault message => some message
  | done | wait _ | passed => none

/-- The verdict on a console that may fail. -/
def ofConsole {α : Type} (f : α → Verdict) : Except String α → Verdict
  | .ok a => f a
  | .error reason => failed s!"serial console error: {reason}"

end Verdict

/-- A run of a sequence. -/
structure Execution where
  sequence : Sequence
  untilStopped : Bool
  status : RunStatus
  progress : Progress
  /-- The switch that speed and port steps address. -/
  current : Option SwitchId
deriving DecidableEq

/-- What a tick comes to: the wait before the next one, the tally if a cycle ended,
and the events in their order. -/
structure Tick where
  wait : UInt64
  cycle : Option Tally
  events : List Event

namespace Execution

/-- A run that has not begun. -/
def ready (sequence : Sequence) (interval : UInt64) (untilStopped : Bool) : Execution :=
  ⟨sequence, untilStopped, .idle, ⟨0, .zero, interval⟩, none⟩

/-- Begins from the first step with nothing counted. -/
def start (e : Execution) : Execution :=
  { e with
    progress := ⟨0, .zero, e.progress.interval⟩
    current := none
    status := if e.sequence.steps.isEmpty then .completed else .running }

/-- Stops a run that is running. -/
def stop (e : Execution) (reason : StopReason) : Execution :=
  if e.status = .running then { e with status := .stopped reason } else e

/-! ### One step -/

/-- The switch that is addressed after a step. -/
def selected (e : Execution) : Step → Option SwitchId
  | .select label => match e.sequence.aliases.get? label with
    | some b => some b.id
    | none => e.current
  | _ => e.current

/-- The command that a step stands for, if its switch is known. -/
def command? (e : Execution) : Step → Option Command
  | .speed mode => e.current.map fun id => .speed id mode
  | .port n => e.current.map fun id => .port id n
  | .read label p => (e.sequence.aliases.get? label).map fun b => .read b.id p
  | _ => none

/-- The verdict on a step that commands nothing. -/
def quiet (e : Execution) : Step → Verdict
  | .delay ms => .wait ms
  | .select label => match e.sequence.aliases.get? label with
    | some _ => .done
    | none => .failed s!"unknown switch alias '{label}'"
  | .read label _ => .failed s!"unknown switch alias '{label}'"
  | .speed _ | .port _ => .failed "no switch selected"
  | .cycles _ | .serial .. | .finish => .done

section
variable {σ : Type} (env : Surroundings σ)

/-- Carries out a step at the console. -/
def performSerial (action : SerialAction) (payload : String) (s : σ) : Verdict × List Event × σ :=
  match env.console with
  | none => (.failed "no serial console configured", [], s)
  | some console =>
    match action with
    | .connect =>
      let words := Text.words payload.toList
      let path := String.ofList ((words[0]?).getD [])
      let baud := (words[1]?).bind Text.word32?
      let (result, s) := console.connect path baud s
      (.ofConsole (fun _ => .done) result, [.consoleOpened path baud], s)
    | .write =>
      let (result, s) := console.write payload s
      (.ofConsole (fun _ => .done) result, [.consoleWritten payload], s)
    | .expect =>
      let (result, s) := console.expect payload s
      let verdict := Verdict.ofConsole (fun seen =>
        if seen then .passed else .failed s!"expected serial output '{payload}' not seen") result
      (verdict, [.consoleAwaited payload], s)

/-- Carries out a step. -/
def perform (e : Execution) (step : Step) (s : σ) : Verdict × List Event × σ :=
  match step, e.command? step with
  | .serial action payload, _ => performSerial env action payload s
  | _, some c =>
    let (result, s) := env.sink c s
    (.ofResult result, [.dispatched c result], s)
  | step, none => (e.quiet step, [], s)

end

/-! ### Ticks -/

/-- Counts what came of a step; a fault stops the run. -/
def count (e : Execution) (v : Verdict) : Execution :=
  let tally := e.progress.tally
  match v with
  | .done | .wait _ => e
  | .passed => { e with progress := { e.progress with tally := { tally with passes := countUp tally.passes } } }
  | .failed _ =>
    { e with progress := { e.progress with tally := { tally with failures := countUp tally.failures } } }
  | .fault _ =>
    { e with progress := { e.progress with tally := { tally with failures := countUp tally.failures } } }.stop
      .fault

/-- Whether the cycles asked for have been run. -/
def isSated (e : Execution) : Bool :=
  !e.untilStopped && e.sequence.cycles ≤ e.progress.tally.cycles

/-- Goes on to the next step; after the last one a cycle has ended. -/
def advance (e : Execution) : Execution × Option Tally :=
  if e.progress.next + 1 < e.sequence.steps.length then
    ({ e with progress := { e.progress with next := e.progress.next + 1 } }, none)
  else
    let tally := { e.progress.tally with cycles := countUp e.progress.tally.cycles }
    let e := { e with progress := { e.progress with next := 0, tally } }
    (if e.status = .running ∧ e.isSated then { e with status := .completed } else e, some tally)

/-- The wait after a step. -/
def waitAfter (e : Execution) : Verdict → UInt64
  | .wait ms => ms
  | _ => e.progress.interval

/-- Carries out the step that is next. A run that is not running does nothing. -/
def tick {σ : Type} (env : Surroundings σ) (e : Execution) (s : σ) : Tick × Execution × σ :=
  if e.status ≠ .running then (⟨0, none, []⟩, e, s)
  else match e.sequence.steps[e.progress.next]? with
    | none => (⟨0, none, []⟩, { e with status := .completed }, s)
    | some step =>
      let (verdict, events, s) := e.perform env step s
      let failures := verdict.failure?.toList.map (.stepFailed e.progress.next)
      let (after, cycle) := ({ e with current := e.selected step }.count verdict).advance
      (⟨e.waitAfter verdict, cycle, events ++ failures ++ cycle.toList.map .cycleCompleted⟩, after, s)

/-- Ticks until the run is no longer running, `n` times at most. -/
def ticks {σ : Type} (env : Surroundings σ) : Nat → Execution → σ → List Tick × Execution × σ
  | 0, e, s => ([], e, s)
  | n + 1, e, s =>
    if e.status ≠ .running then ([], e, s)
    else
      let (t, e, s) := e.tick env s
      let (ts, e, s) := ticks env n e s
      (t :: ts, e, s)

end Execution

end SwitchBench
