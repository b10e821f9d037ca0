import SwitchBench.Json.Record
import SwitchBench.Json.Writer
import SwitchBench.Switch.Bench

/-! Responses.

A response carries one value. A text is a reply to a command; an object that names
a class of failure and gives a message reports a failure. -/
namespace SwitchBench

/-- A class is written as its name, or as an object that gives the name no value. -/
def FaultKind.ofJson? : Json → Option FaultKind
  | .string s => some (ofCode s)
  | .object [(name, .null)] => some (ofCode name)
  | _ => none

/-- A failure as it is reported. -/
structure Fault where
  kind : FaultKind
  message : String
deriving DecidableEq

namespace Fault

def ofError (e : SwitchError) : Fault := ⟨e.kind, e.message⟩

def json (f : Fault) : Json := .object [("error", .string f.kind.code), ("message", .string f.message)]

/-- Members of other names do not matter. -/
def ofJson? (v : Json) : Option Fault := do
  let kind ← v.member? "error"
  let message ← v.member? "message"
  return ⟨← FaultKind.ofJson? kind, ← message.text?⟩

end Fault

structure Response where
  data : Json

namespace Response

def text (s : String) : Response := ⟨.string s⟩

/-- The command was carried out. -/
def success : Response := text acknowledgement

/-- The command was not carried out, for no stated reason. -/
def fail : Response := text "fail"

/-- The request makes no sense. -/
def invalid : Response := text "Invalid command"

def fault (f : Fault) : Response := ⟨f.json⟩

def text? (r : Response) : Option String := r.data.text?

def fault? (r : Response) : Option Fault := Fault.ofJson? r.data

def isInvalid (r : Response) : Bool := r.text? == invalid.text?

/-! ### On the wire -/

def encode (r : Response) : List Char := Json.write (.object [("data", r.data)])

def fields : List Json.Field :=
  [{ name := "data", required := true, scalar := false, accepts := fun _ => true }]

/-- The response with the given value of its field. -/
def ofSlots? : List (Option Json) → Option Response
  | [some data] => some ⟨data⟩
  | _ => none

end Response

end SwitchBench
