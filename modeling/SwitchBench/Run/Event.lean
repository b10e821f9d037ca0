import SwitchBench.Dispatch.Command
import SwitchBench.Dispatch.Failure
import SwitchBench.SystemError

/-! What is seen of a run: where it stands, what it has counted and the events that
it gives rise to. -/
namespace SwitchBench

/-- Why a run ended before its last cycle. -/
inductive StopReason where
  /-- It was asked to stop. -/
  | manual
  /-- The interlock refused a port command. -/
  | fault
deriving DecidableEq

def StopReason.name : StopReason → String
  | manual => "manual"
  | fault => "fault"

inductive RunStatus where
  | idle
  | running
  | stopped (reason : StopReason)
  | completed
deriving DecidableEq

def RunStatus.name : RunStatus → String
  | idle => "idle"
  | running => "running"
  | stopped reason => s!"stopped ({reason.name})"
  | completed => "completed"

/-- One more, unless the count is as high as it goes. -/
def countUp (n : UInt32) : UInt32 := if n = 4294967295 then n else n + 1

/-- What a run has counted. A step that expected an output and saw it is passed; a
step that was not carried out is failed; any other step is neither. -/
structure Tally where
  cycles : UInt32
  passes : UInt32
  failures : UInt32
deriving DecidableEq

def Tally.zero : Tally := ⟨0, 0, 0⟩

/-- How far a run has come. -/
structure Progress where
  /-- The place of the step that is next. -/
  next : Nat
  tally : Tally
  /-- The wait after a step that is no delay, in milliseconds. -/
  interval : UInt64
deriving DecidableEq

/-- How a run ended. -/
structure Summary where
  status : RunStatus
  progress : Progress
deriving DecidableEq

/-- Why a run was not started or has no summary. -/
inductive RunError where
  | alreadyRunning
  | notStarted
  | emptySequence
  | missingSwitch (id : SwitchId) (reason : DispatchError)
  /-- The run was given no thread. -/
  | noThread (reason : SystemError)
  | crashed
deriving DecidableEq

def RunError.message : RunError → String
  | alreadyRunning => "a batch run is already in progress"
  | notStarted => "no batch run has been started"
  | emptySequence => "the batch sequence has no steps"
  | missingSwitch id reason => s!"switch {id.text} is not available: {reason.message}"
  | noThread reason => s!"failed to spawn batch thread: {reason.message}"
  | crashed => "batch thread panicked"

inductive Event where
  | dispatched (command : Command) (result : Except DispatchError Reply)
  | consoleOpened (path : String) (baud : Option UInt32)
  | consoleWritten (text : String)
  | consoleAwaited (text : String)
  | stepFailed (place : Nat) (message : String)
  | cycleCompleted (tally : Tally)
  | runStarted (steps : Nat) (cycles : UInt32) (untilStopped : Bool)
  | runRejected (reason : RunError)
  | runFinished (summary : Summary)

end SwitchBench
