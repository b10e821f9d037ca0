import SwitchBench.Switch.Model
import SwitchBench.Text.Blank

/-! The words that a request is made of.

A word of a request is known by its name, whatever the case of its ASCII letters
and whatever blanks stand around it. -/
namespace SwitchBench

/-- The first of `all` that a word of a request names. -/
def recognised? {α : Type} (name : α → String) (all : List α) (word : String) : Option α :=
  named? name all (Text.trim word.toList)

/-- What a request is about: switches as devices, or what a switch does. -/
inductive Category where
  | device | control
deriving DecidableEq

namespace Category

def all : List Category := [device, control]

def name : Category → String
  | device => "device"
  | control => "control"

def ofText? (word : String) : Option Category := recognised? name all word

theorem ofText?_name (c : Category) : ofText? c.name = some c := by cases c <;> decide

end Category

/-- The commands of the category `device`. -/
inductive DeviceCommand where
  | search | open' | close
deriving DecidableEq

namespace DeviceCommand

def all : List DeviceCommand := [search, open', close]

def name : DeviceCommand → String
  | search => "search"
  | open' => "open"
  | close => "close"

def ofText? (word : String) : Option DeviceCommand := recognised? name all word

theorem ofText?_name (c : DeviceCommand) : ofText? c.name = some c := by cases c <;> decide

end DeviceCommand

/-- The commands of the category `control`. -/
inductive ControlCommand where
  | switch | speed | read | status | volts | amps
deriving DecidableEq

namespace ControlCommand

def all : List ControlCommand := [switch, speed, read, status, volts, amps]

def name : ControlCommand → String
  | switch => "switch"
  | speed => "speed"
  | read => "read"
  | status => "status"
  | volts => "volts"
  | amps => "amps"

def ofText? (word : String) : Option ControlCommand := recognised? name all word

theorem ofText?_name (c : ControlCommand) : ofText? c.name = some c := by cases c <;> decide

end ControlCommand

namespace Interface

def ofText? (word : String) : Option Interface := recognised? name all word

theorem ofText?_name (i : Interface) : ofText? i.name = some i := by cases i <;> decide

end Interface

end SwitchBench
