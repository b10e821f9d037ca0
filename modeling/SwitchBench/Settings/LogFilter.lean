import SwitchBench.Decimal.Written
import SwitchBench.Pattern.Syntax
import SwitchBench.Text.Bytes
import SwitchBench.Text.Numeral

/-! Log filters: which log lines are wanted.

A filter is a list of directives with commas between them; empty ones do not matter. A
directive names a level, a target, or a target and a level behind an equals sign. A
target may name a span in brackets, with a field in braces. A word in the place of a
target that is no level is a target; a word behind an equals sign has to be a level. The
value of a field is a truth value, a number or a pattern.

Places in a directive are counted in bytes from its first character that is no blank,
but parts are taken from the directive with its blanks. So blanks in front move each
part to the left, and blanks at the end belong to a level. A part moved so may begin
or end inside a character. -/
namespace SwitchBench.LogFilter

/-- Why a text is no filter. -/
inductive Fault where
  | malformed
  /-- A part of a directive begins or ends inside a character. -/
  | torn
deriving DecidableEq

def levels : List String := ["off", "error", "warn", "info", "debug", "trace"]

/-- Whether a word is a level: its name, letter case aside, or its number. No word at
all is a level too. -/
def isLevel (word : List Char) : Bool :=
  word == [] || (Text.numeral? 5 word).isSome || levels.any fun l => l.toList == word.map Char.toLower

/-- Whether a text is the value of a field. -/
def isValue (cs : List Char) : Bool :=
  cs == "true".toList || cs == "false".toList || (Decimal.Written.ofText? cs).isSome ||
    Pattern.isPattern cs

/-- Whether a text is a field. The value stands between the first two equals signs. -/
def isField (cs : List Char) : Bool :=
  match cs.splitOn '=' with
  | _ :: value :: _ => isValue value
  | _ => cs != []

/-- Where the reading of a directive stands, with the place where a part began. -/
inductive Place where
  | start
  /-- In a level or a target. -/
  | word
  | span (start : Nat)
  | field (start : Nat)
  | afterFields
  | afterSpan
  | level (start : Nat)
deriving DecidableEq

/-- Whether a directive may begin with the character. -/
def begins (c : Char) : Bool := c == '-' || c == ':' || c == '_' || Text.isAlphanumeric c

/-- A part of a directive. -/
def part (cs : List Char) (start stop : Nat) : Except Fault (List Char) :=
  match Text.slice? start stop cs with
  | some part => .ok part
  | none => .error .torn

/-- Reads the character at a place; `cs` is the directive. -/
def next (cs : List Char) (i : Nat) (c : Char) : Place → Except Fault Place
  | .start =>
    if c = '[' then .ok (.span (i + 1)) else if begins c then .ok .word else .error .malformed
  | .word => do
    if c = '=' then
      let _ ← part cs 0 i
      return .level (i + 1)
    else if c = '[' then
      let _ ← part cs 0 i
      return .span (i + 1)
    else return .word
  | .span start => do
    if c = ']' then
      let _ ← part cs start i
      return .afterSpan
    else if c = '\x7b' then
      let _ ← part cs start i
      return .field (i + 1)
    else return .span start
  | .field start => do
    if c = '\x7d' then
      if isField (← part cs start i) then return .afterFields else throw .malformed
    else return .field start
  | .afterFields => if c = ']' then .ok .afterSpan else .error .malformed
  | .afterSpan => if c = '=' then .ok (.level (i + 1)) else .error .malformed
  | .level start => .ok (.level start)

/-- Whether a directive may end in a place. -/
def finish (cs : List Char) : Place → Except Fault Unit
  | .word | .afterSpan => .ok ()
  | .level start => do
    if isLevel (← part cs start (Text.byteLength cs)) then return () else throw .malformed
  | .start | .span _ | .field _ | .afterFields => .error .malformed

/-- Reads the characters from a place on. -/
def readFrom (cs : List Char) (i : Nat) (place : Place) : List Char → Except Fault Unit
  | [] => finish cs place
  | c :: rest => do readFrom cs (i + c.utf8Size) (← next cs i c place) rest

/-- Reads a directive. -/
def readDirective (cs : List Char) : Except Fault Unit := readFrom cs 0 .start (Text.trim cs)

/-- Reads a filter; of several faults the first counts. -/
def read (cs : List Char) : Except Fault Unit :=
  ((cs.splitOn ',').filter (· != [])).forM readDirective

end SwitchBench.LogFilter
