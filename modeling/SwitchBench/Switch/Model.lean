import SwitchBench.Text.Case

/-! Switches: what a model can do and what can be asked of it.

A switch connects one of its ports or none; port 0 stands for none and is valid on
every model. Some models choose whether the fast lines are connected (`Speed`) and
some measure the bus (`Parameter`). -/
namespace SwitchBench

open Text (lower)

/-- The first of `all` whose name is `word`, the case of ASCII letters aside. -/
def named? {α : Type} (name : α → String) (all : List α) (word : List Char) : Option α :=
  all.find? fun x => lower (name x).toList == lower word

/-- What is said of a word that names nothing of its kind. -/
def unmatched : String := "Matching variant not found"

inductive Model where
  | m3141 | m3142 | m3201 | m2101 | m2301
deriving DecidableEq

namespace Model

def all : List Model := [m3141, m3142, m3201, m2101, m2301]

def name : Model → String
  | m3141 => "3141"
  | m3142 => "3142"
  | m3201 => "3201"
  | m2101 => "2101"
  | m2301 => "2301"

/-- A model is known by its exact name. -/
def ofName? (s : String) : Option Model := all.find? fun m => m.name == s

/-- Ports are numbered from 1 to this. -/
def portCount : Model → UInt8
  | m3141 | m3142 => 2
  | m3201 | m2301 => 1
  | m2101 => 4

/-- Whether the fast lines can be switched. -/
def hasSpeed : Model → Bool
  | m2101 => false
  | _ => true

/-- Whether the bus voltage and current are measured. -/
def hasMeters : Model → Bool
  | m3141 | m3142 | m3201 => true
  | m2101 | m2301 => false

/-- Port 0 and the numbered ports are addressable. -/
def accepts (m : Model) (port : UInt8) : Bool := port ≤ m.portCount

theorem ofName?_name (m : Model) : ofName? m.name = some m := by cases m <;> decide

end Model

/-- Whether the fast lines are connected with the next port. -/
inductive Speed where
  | ss0 | ss1
deriving DecidableEq

namespace Speed

def all : List Speed := [ss0, ss1]

def name : Speed → String
  | ss0 => "SS0"
  | ss1 => "SS1"

def ofWord? (word : List Char) : Option Speed := named? name all word

theorem ofWord?_name (s : Speed) : ofWord? s.name.toList = some s := by cases s <;> decide

end Speed

/-- What can be read back from a switch. -/
inductive Parameter where
  | status | volts | amps | version
deriving DecidableEq

namespace Parameter

def all : List Parameter := [status, volts, amps, version]

def name : Parameter → String
  | status => "status"
  | volts => "volts"
  | amps => "amps"
  | version => "version"

def ofWord? (word : List Char) : Option Parameter := named? name all word

/-- Whether reading it takes a model with meters. -/
def isMeasurement : Parameter → Bool
  | volts | amps => true
  | status | version => false

theorem ofWord?_name (p : Parameter) : ofWord? p.name.toList = some p := by cases p <;> decide

end Parameter

/-- How a switch is reached. -/
inductive Interface where
  | serial | usb
deriving DecidableEq

namespace Interface

def all : List Interface := [serial, usb]

def name : Interface → String
  | serial => "serial"
  | usb => "usb"

end Interface

end SwitchBench
