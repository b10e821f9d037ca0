import SwitchBench.Switch.Model

/-! Settings with few values.

A setting may be spelled as a word, the case of its ASCII letters aside, or given
by its exact name; files and variables use the exact name. -/
namespace SwitchBench

/-- Where commands are carried out. -/
inductive Role where
  /-- On the bench of this machine. -/
  | here
  /-- By a server reached over the network. -/
  | network
deriving DecidableEq

namespace Role

def all : List Role := [here, network]

def name : Role → String
  | here => "local"
  | network => "network"

def ofWord? (word : List Char) : Option Role := named? name all word

def ofName? (s : String) : Option Role := all.find? fun r => r.name == s

end Role

/-- How log lines are written. -/
inductive LogFormat where
  | json | compact
deriving DecidableEq

namespace LogFormat

def all : List LogFormat := [json, compact]

def name : LogFormat → String
  | json => "json"
  | compact => "compact"

def ofWord? (word : List Char) : Option LogFormat := named? name all word

def ofName? (s : String) : Option LogFormat := all.find? fun f => f.name == s

end LogFormat

end SwitchBench
