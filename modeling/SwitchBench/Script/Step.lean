import SwitchBench.Switch.Id
import SwitchBench.Switch.Model

/-! Steps of a batch.

A batch is a list of steps over switches that it knows by alias. Selecting a switch
decides which one the following speed and port steps address. -/
namespace SwitchBench

/-- What is done with a serial console. -/
inductive SerialAction where
  /-- Open the line that the payload names. -/
  | connect
  /-- Write the payload. -/
  | write
  /-- Look for the payload in what the console has said. -/
  | expect
deriving DecidableEq

namespace SerialAction

def all : List SerialAction := [connect, write, expect]

def name : SerialAction → String
  | connect => "open"
  | write => "write"
  | expect => "read"

/-- An action is known by its exact name. -/
def ofName? (s : String) : Option SerialAction := all.find? fun a => a.name == s

theorem ofName?_name (a : SerialAction) : ofName? a.name = some a := by cases a <;> decide

end SerialAction

inductive Step where
  /-- Select the switch that speed and port steps address from here on. -/
  | select (label : String)
  | speed (mode : Speed)
  /-- Connect a port; port 0 disconnects all. -/
  | port (number : UInt8)
  | delay (milliseconds : UInt64)
  | read (label : String) (parameter : Parameter)
  /-- A mark: how often the batch is to be run. -/
  | cycles (count : UInt32)
  | serial (action : SerialAction) (payload : String)
  /-- A mark: the batch was ended explicitly. -/
  | finish
deriving DecidableEq

namespace Step

/-- Whether the step matters for safe switching. -/
def isSwitching : Step → Bool
  | select _ | port _ | delay _ => true
  | _ => false

/-- The alias of the switch that the step names. -/
def alias? : Step → Option String
  | select label | read label _ => some label
  | _ => none

/-- The number of cycles that the step asks for. -/
def cycles? : Step → Option UInt32
  | cycles count => some count
  | _ => none

end Step

/-- The switch that an alias stands for. -/
structure Binding where
  id : SwitchId
  model : Model
deriving DecidableEq

end SwitchBench
