import SwitchBench.Script.Problem
import SwitchBench.Script.Sequence
import SwitchBench.Text.Case
import SwitchBench.Text.Cut
import SwitchBench.Text.Quoted

/-! Reading scripts.

A script holds one instruction a line, opened by an opcode. Blank lines, lines that
start with `#` and lines with an unknown opcode say nothing. Declarations of
switches may stand anywhere; the instructions for switching, waiting, reading and
the serial console only count after the line `main:`. A line with a problem is left
out whole. -/
namespace SwitchBench

/-- What opens an instruction, whatever the case of its ASCII letters. -/
inductive Opcode where
  | switch | main | port | delay | read | cycles | serial | finish
deriving DecidableEq

namespace Opcode

def all : List Opcode := [switch, main, port, delay, read, cycles, serial, finish]

def name : Opcode → String
  | switch => "switch"
  | main => "main:"
  | port => "port"
  | delay => "delay"
  | read => "read"
  | cycles => "repeat"
  | serial => "serial"
  | finish => "end"

def ofWord? (word : List Char) : Option Opcode := named? name all word

theorem ofWord?_name (o : Opcode) : ofWord? o.name.toList = some o := by cases o <;> decide

/-- Whether the instruction counts only after `main:`. -/
def needsMain : Opcode → Bool
  | port | delay | read | serial => true
  | switch | main | cycles | finish => false

end Opcode

/-- What the lines so far mean for the next one. -/
structure Context where
  aliases : Aliases
  inMain : Bool
deriving DecidableEq

namespace Context

/-- At the first line. -/
def start : Context := ⟨.empty, false⟩

def binding (c : Context) (label : List Char) : Except Problem Binding :=
  match c.aliases.get? (.ofList label) with
  | some b => .ok b
  | none => .error (.unknownAlias (.ofList label))

/-- `<alias> = "<id>" "<model>"` -/
def declaration (c : Context) (rest : List Char) : Except Problem Aliases := do
  let some (left, right) := Text.cutFirst? '=' rest | throw .malformedSwitch
  let label := Text.trim left
  let [path, model] := Text.quotedWords right | throw .malformedSwitch
  if label.isEmpty || label.any Text.isBlank then throw .malformedSwitch
  let some model := Model.ofName? (.ofList model) | throw (.unsupportedModel (.ofList model))
  let id := SwitchId.ofText (.ofList path)
  if id.text = "" then throw .malformedSwitch
  let some aliases := c.aliases.declare? (.ofList label) ⟨id, model⟩
    | throw (.duplicateAlias (.ofList label))
  return aliases

/-- The number after the letter `p` of a port target. -/
def portNumber? : List Char → Option UInt8
  | 'p' :: digits | 'P' :: digits => Text.byte? digits
  | _ => none

/-- `<alias>.p<number> [<speed>]` -/
def portSteps (c : Context) (rest : List Char) : Except Problem (List Step) := do
  let (target, speed) ← match Text.words rest with
    | [target] => pure (target, none)
    | [target, speed] => pure (target, some speed)
    | _ => throw (.invalidPort (.ofList rest))
  let some (label, port) := Text.cutLast? '.' target | throw (.invalidPort (.ofList target))
  let binding ← c.binding label
  let some port := portNumber? port | throw (.invalidPort (.ofList target))
  unless binding.model.accepts port do
    throw (.portOutOfRange (.ofList label) binding.model port)
  match speed with
  | none => return [.select (.ofList label), .port port]
  | some word =>
    let some mode := Speed.ofWord? word | throw (.invalidSpeed (.ofList word))
    unless binding.model.hasSpeed do throw (.speedUnsupported (.ofList label) binding.model)
    return [.select (.ofList label), .speed mode, .port port]

/-- A number of milliseconds with or without the unit `ms`. -/
def delaySteps (rest : List Char) : Except Problem (List Step) :=
  let lowered := Text.lower rest
  let digits := if "ms".toList.isSuffixOf lowered then lowered.dropLast.dropLast else lowered
  match Text.word64? (Text.trim digits) with
  | some ms => .ok [.delay ms]
  | none => .error (.invalidDelay (.ofList rest))

/-- `<alias> <parameter>` -/
def readSteps (c : Context) (rest : List Char) : Except Problem (List Step) := do
  let [label, word] := Text.words rest | throw .malformedRead
  let _ ← c.binding label
  let some p := Parameter.ofWord? word | throw (.invalidParameter (.ofList word))
  return [.read (.ofList label) p]

/-- One positive number. -/
def cycleSteps (rest : List Char) : Except Problem (List Step) :=
  match Text.words rest with
  | [word] => match Text.word32? word with
    | some count => if count = 0 then .error .invalidCount else .ok [.cycles count]
    | none => .error .invalidCount
  | _ => .error .invalidCount

/-- `<action> <payload>`, where the payload runs to the end of the line. -/
def serialSteps (rest : List Char) : Except Problem (List Step) :=
  let (action, payload) := Text.splitFirst rest
  match SerialAction.ofName? (.ofList action) with
  | some action =>
    if payload.isEmpty then .error .malformedSerial else .ok [.serial action (.ofList payload)]
  | none => .error .malformedSerial

/-- What an instruction means: the context after it and the steps it adds. -/
def instruction (c : Context) (opcode : Opcode) (rest : List Char) :
    Except Problem (Context × List Step) := do
  if opcode.needsMain && !c.inMain then throw (.beforeMain opcode.name)
  match opcode with
  | .switch => return ({ c with aliases := ← c.declaration rest }, [])
  | .main => return ({ c with inMain := true }, [])
  | .port => return (c, ← c.portSteps rest)
  | .delay => return (c, ← delaySteps rest)
  | .read => return (c, ← c.readSteps rest)
  | .cycles => return (c, ← cycleSteps rest)
  | .serial => return (c, ← serialSteps rest)
  | .finish => return (c, [.finish])

/-- What a line means. -/
def line (c : Context) (text : List Char) : Except Problem (Context × List Step) :=
  let text := Text.trim text
  if text.head? = some '#' then .ok (c, [])
  else
    let (word, rest) := Text.splitFirst text
    match Opcode.ofWord? word with
    | some opcode => c.instruction opcode rest
    | none => .ok (c, [])

end Context

/-- What a script comes to. -/
structure Reading where
  sequence : Sequence
  warnings : List Warning
deriving DecidableEq

namespace Reading

/-- Reads lines from the one numbered `n` on. -/
def ofLines (c : Context) (n : Nat) : List (List Char) → Reading
  | [] => ⟨⟨[], c.aliases⟩, []⟩
  | l :: rest =>
    match c.line l with
    | .ok (c, steps) =>
      let r := ofLines c (n + 1) rest
      { r with sequence := { r.sequence with steps := steps ++ r.sequence.steps } }
    | .error p =>
      let r := ofLines c (n + 1) rest
      { r with warnings := ⟨n, p⟩ :: r.warnings }

/-- Reads a script. -/
def ofText (text : List Char) : Reading := ofLines .start 1 (Text.lines text)

end Reading

end SwitchBench
