import SwitchBench.Switch.Model

/-! What can be wrong with a line of a script.

A problem never stops the reading of a script: the line is left out and a warning
names the line and the problem. -/
namespace SwitchBench

inductive Problem where
  | unsupportedModel (model : String)
  | malformedSwitch
  | duplicateAlias (label : String)
  | beforeMain (opcode : String)
  | unknownAlias (label : String)
  | invalidPort (target : String)
  | portOutOfRange (label : String) (model : Model) (port : UInt8)
  | invalidSpeed (value : String)
  | speedUnsupported (label : String) (model : Model)
  | invalidDelay (value : String)
  | malformedRead
  | invalidParameter (value : String)
  | invalidCount
  | malformedSerial
deriving DecidableEq

namespace Problem

def message : Problem → String
  | unsupportedModel model => s!"unsupported switch model '{model}'"
  | malformedSwitch => "malformed switch declaration"
  | duplicateAlias label => s!"alias '{label}' is already declared"
  | beforeMain opcode => s!"'{opcode}' before 'main:' is ignored"
  | unknownAlias label => s!"unknown switch alias '{label}'"
  | invalidPort target => s!"malformed port target '{target}'"
  | portOutOfRange label model port => s!"switch '{label}' (model {model.name}) has no port {port.toNat}"
  | invalidSpeed value => s!"invalid speed mode '{value}'"
  | speedUnsupported label model => s!"switch '{label}' (model {model.name}) has no speed control"
  | invalidDelay value => s!"invalid delay '{value}'"
  | malformedRead => "malformed read instruction"
  | invalidParameter value => s!"unknown read parameter '{value}'"
  | invalidCount => "repeat takes exactly one positive count"
  | malformedSerial => "malformed serial instruction"

end Problem

/-- A problem and the number of its line, counted from 1. -/
structure Warning where
  line : Nat
  problem : Problem
deriving DecidableEq

def Warning.message (w : Warning) : String := s!"line {w.line}: {w.problem.message}"

end SwitchBench
