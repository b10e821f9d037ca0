import SwitchBench.Run.Runner
import SwitchBench.Script.Reading
import SwitchBench.Script.Safety

/-! What comes of a task.

A task writes lines to two streams and succeeds or fails. Warnings about a script come
first. A task that fails says why in one line of the second stream, except that a run
that came to its end with failures has only its summary.

Simulated switches have no clock, so the waits of a run are not waited out. -/
namespace SwitchBench

structure Outcome where
  /-- The lines for the answer. -/
  answer : List String
  /-- The lines for warnings and failures. -/
  remarks : List String
  succeeded : Bool
deriving DecidableEq

/-- Why a task fails. -/
inductive TaskError where
  | emptyScript
  | unsafeScript (violation : Violation)
  | run (reason : RunError)
  | switch (name : String) (reason : DispatchError)
deriving DecidableEq

namespace Violation

/-- What is said of a violation, whatever comes of it. -/
def message (v : Violation) : String := s!"safety check failed for '{v.label}': {v.rule.message}"

end Violation

namespace TaskError

def message : TaskError → String
  | emptyScript => "batch script has no steps"
  | unsafeScript v => s!"{v.message} (use --force to run anyway)"
  | run reason => s!"batch run failed: {reason.message}"
  | switch name reason => s!"switch {name}: {reason.message}"

end TaskError

namespace Outcome

def failure (answer remarks : List String) (message : String) : Outcome :=
  ⟨answer, remarks ++ [message], false⟩

end Outcome

/-- The lines of warnings. -/
def Reading.remarks (r : Reading) : List String := r.warnings.map fun w => s!"warning: {w.message}"

/-! ### Checking -/

/-- The line that says how large a batch is. -/
def Sequence.measure (s : Sequence) : String :=
  s!"{s.steps.length} steps, {s.aliases.entries.length} switches, repeat {s.cycles.toNat}"

/-- Checks a script. -/
def checkScript (text : List Char) : Outcome :=
  let r := Reading.ofText text
  match r.sequence.violation? with
  | none => ⟨[r.sequence.measure, "safety check passed"], r.remarks, true⟩
  | some v => .failure [r.sequence.measure] r.remarks (TaskError.unsafeScript v).message

/-! ### Running -/

/-- Opens switches one after the other, whatever comes of each. -/
def openAll {σ : Type} (sink : Sink σ) (ids : List SwitchId) (s : σ) : σ :=
  ids.foldl (fun s id => (sink (.connect id .serial none) s).2) s

/-- The switches behind the aliases of a sequence, in the order of declaration. -/
def Sequence.declared (s : Sequence) : List (SwitchId × Model) :=
  s.aliases.entries.map fun e => (e.2.id, e.2.model)

/-- A bench to which the switches that a sequence declares are attached. -/
def Sequence.bench (s : Sequence) : Bench := .idle (.listed s.declared)

/-- What commands of a run act on: a sink, and no console. There is always a thread for the run. -/
def Sink.surroundings {σ : Type} (sink : Sink σ) : Surroundings σ where
  sink := sink
  console := none
  crashes _ _ := false

/-- Runs a sequence through a sink. Gives nothing when the run goes on without end. -/
def Sequence.runThrough {σ : Type} (sink : Sink σ) (untilStopped : Bool) (sequence : Sequence)
    (s : σ) : Option (Except RunError Summary) × σ :=
  let s := openAll sink (sequence.declared.map Prod.fst) s
  let (outcome, _, _, s) := Runner.new.run sink.surroundings sequence.threadSteps sequence
    { RunOptions.standard with untilStopped } s
  (outcome, s)

namespace Summary

/-- The line that sums a run up. -/
def line (s : Summary) : String :=
  let t := s.progress.tally
  s!"{s.status.name}: {t.cycles.toNat} cycles, {t.passes.toNat} passed, {t.failures.toNat} failed"

/-- Whether a run ended as it should and nothing failed in it. -/
def isClean (s : Summary) : Bool :=
  (s.status == .completed || s.status == .stopped .manual) && s.progress.tally.failures == 0

end Summary

/-- Lets a script run that has steps and switches safely, or of which `force` says that
it may run anyhow. Gives the batch and the remarks so far. -/
def admitScript (force : Bool) (text : List Char) : Except Outcome (Sequence × List String) :=
  let r := Reading.ofText text
  if r.sequence.steps.isEmpty then .error (.failure [] r.remarks TaskError.emptyScript.message)
  else match r.sequence.violation? with
    | none => .ok (r.sequence, r.remarks)
    | some v =>
      if force then .ok (r.sequence, r.remarks ++ [s!"warning: {v.message}"])
      else .error (.failure [] r.remarks (TaskError.unsafeScript v).message)

/-- What comes of a run. -/
def Outcome.ofRun (remarks : List String) : Except RunError Summary → Outcome
  | .ok summary => ⟨[summary.line], remarks, summary.isClean⟩
  | .error e => .failure [] remarks (TaskError.run e).message

/-- Runs a script on a bench of the switches that it declares. Gives nothing when the
run goes on without end. -/
def runScriptHere (force untilStopped : Bool) (text : List Char) : Option Outcome :=
  match admitScript force text with
  | .error o => some o
  | .ok (sequence, remarks) =>
    (sequence.runThrough benchSink untilStopped sequence.bench).1.map (.ofRun remarks)

/-- Runs a script through a sink. -/
def runScriptThrough {σ : Type} (sink : Sink σ) (force untilStopped : Bool) (text : List Char)
    (s : σ) : Option Outcome × σ :=
  match admitScript force text with
  | .error o => (some o, s)
  | .ok (sequence, remarks) =>
    let (outcome, s) := sequence.runThrough sink untilStopped s
    (outcome.map (.ofRun remarks), s)

/-! ### Asking a switch -/

/-- Opens a switch and asks for its status. Blanks around its name do not count, except
in what is said of a failure. -/
def askStatus {σ : Type} (sink : Sink σ) (name : String) (s : σ) : Outcome × σ :=
  let id := SwitchId.ofText name
  let (result, s) := sink (.read id .status) (openAll sink [id] s)
  match result with
  | .ok reply => (⟨[reply.text], [], true⟩, s)
  | .error e => (.failure [] [] (TaskError.switch name e).message, s)

end SwitchBench
