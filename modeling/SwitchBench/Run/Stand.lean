import SwitchBench.Run.Execution
import SwitchBench.Switch.Bench

/-! Stands: simulated surroundings of a batch.

A stand is a bench behind an interlock, with a serial console beside it. The interlock
can be set to trip once so many commands have been answered, and stays tripped until it
is reset. What the console will have said is known beforehand; it can be written to and
listened to only once it has been opened. -/
namespace SwitchBench

structure Stand where
  bench : Bench
  tripped : Bool
  /-- How many commands have been answered. -/
  answered : Nat
  /-- After how many commands the interlock trips. -/
  tripAfter : Option Nat
  consoleOpen : Bool
  /-- What the console says. -/
  output : List String
  /-- Where no console can be opened. -/
  refused : List String

namespace Stand

def sink : Sink Stand := fun c s =>
  let (result, bench) := benchSink.guarded s.tripped c s.bench
  let n := s.answered + 1
  (result, { s with bench, answered := n, tripped := s.tripped || s.tripAfter.any (· ≤ n) })

/-- What is said of a console before it is opened. -/
def closedMessage : String := "console is closed"

def console : Console Stand where
  connect path _ s :=
    if s.refused.contains path then (.error s!"cannot open {path}", s)
    else (.ok (), { s with consoleOpen := true })
  write _ s := if s.consoleOpen then (.ok (), s) else (.error closedMessage, s)
  expect text s :=
    if s.consoleOpen then (.ok (s.output.contains text), s) else (.error closedMessage, s)

/-- The surroundings of a batch on a stand, where commands of some name may bring it
down. -/
def surroundings (hasConsole : Bool) (crashing : Option String) : Surroundings Stand where
  sink := sink
  console := if hasConsole then some console else none
  crashes c _ := crashing == some c.name

end Stand

end SwitchBench
