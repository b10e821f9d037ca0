import SwitchBench.Json.Record
import SwitchBench.Json.Writer
import SwitchBench.Message.Vocabulary
import SwitchBench.Switch.Id

/-! Requests.

A request keeps its fields as they were sent, so that a server can answer one that
it does not understand. The readings of a field (`category?`, `switch?`, …) say
what the field means, if it means anything. -/
namespace SwitchBench

/-- What is to be done: a command by name, or a bare number. -/
inductive CommandToken where
  | number (value : Int64)
  | name (text : String)
deriving DecidableEq

namespace CommandToken

def name? : CommandToken → Option String
  | number _ => none
  | name text => some text

/-- The port that the token names, as a number or in digits. -/
def port? : CommandToken → Option UInt8
  | number n => if 0 ≤ n.toInt ∧ n.toInt ≤ 255 then some (.ofNat n.toInt.toNat) else none
  | name text => Text.byte? (Text.trim text.toList)

def json : CommandToken → Json
  | number n => .number (.whole n.toInt)
  | name text => .string text

/-- A token is a text or a whole number of 64 bits with its sign. -/
def ofJson? : Json → Option CommandToken
  | .number (.whole n) => if -9223372036854775808 ≤ n ∧ n < 9223372036854775808 then some (number (.ofInt n)) else none
  | .string text => some (name text)
  | _ => none

def display : CommandToken → String
  | number n => String.ofList (Json.wholeText n.toInt)
  | name text => text

end CommandToken

structure Request where
  /-- The category. -/
  ctype : String
  /-- The command. -/
  cmd : CommandToken
  /-- The interface. -/
  itype : Option String
  /-- The switch. -/
  port : Option String
  /-- The speed of a serial line. -/
  baud : Option String
  /-- The argument of the command. -/
  stat : Option String
deriving DecidableEq

namespace Request

/-! ### Making requests -/

def device (command : DeviceCommand) : Request :=
  ⟨Category.device.name, .name command.name, none, none, none, none⟩

def control (via : Interface) (command : ControlCommand) : Request :=
  ⟨Category.control.name, .name command.name, some via.name, none, none, none⟩

/-- A request for a port by its bare number. -/
def bare (port : UInt8) : Request :=
  ⟨Category.control.name, .number (.ofNat port.toNat), some Interface.usb.name, none, none, none⟩

def via (r : Request) (interface : Interface) : Request := { r with itype := some interface.name }

def naming (r : Request) (switch : String) : Request := { r with port := some switch }

def atRate (r : Request) (baud : UInt32) : Request :=
  { r with baud := some (String.ofList (Text.decimal baud.toNat)) }

def saying (r : Request) (argument : String) : Request := { r with stat := some argument }

/-! ### Readings of the fields -/

def category? (r : Request) : Option Category := Category.ofText? r.ctype

def interface? (r : Request) : Option Interface := r.itype.bind Interface.ofText?

/-- The switch that the request names; blanks name none. -/
def switch? (r : Request) : Option SwitchId :=
  (r.port.map SwitchId.ofText).filter fun id => id.text ≠ ""

def rate? (r : Request) : Option UInt32 := r.baud.bind fun s => Text.word32? (Text.trim s.toList)

def argument? (r : Request) : Option (List Char) := r.stat.map fun s => Text.trim s.toList

/-! ### On the wire -/

/-- The fields that are present, in their order. -/
def members (r : Request) : List (String × Json) :=
  [("ctype", .string r.ctype), ("cmd", r.cmd.json)] ++
    [("itype", r.itype), ("port", r.port), ("baud", r.baud), ("stat", r.stat)].filterMap
      fun m => m.2.map fun s => (m.1, .string s)

def encode (r : Request) : List Char := Json.write (.object r.members)

def optionalText (name : String) : Json.Field where
  name
  required := false
  scalar := true
  accepts
    | .null | .string _ => true
    | _ => false

def fields : List Json.Field :=
  [{ name := "ctype", required := true, scalar := true, accepts := fun v => v.text?.isSome },
    { name := "cmd", required := true, scalar := false, accepts := fun v => (CommandToken.ofJson? v).isSome },
    optionalText "itype", optionalText "port", optionalText "baud", optionalText "stat"]

/-- The request with the given values of its fields. -/
def ofSlots? : List (Option Json) → Option Request
  | [ctype, cmd, itype, port, baud, stat] => do
    let text (slot : Option Json) : Option String := slot.bind Json.text?
    return ⟨← text ctype, ← cmd.bind CommandToken.ofJson?, text itype, text port, text baud, text stat⟩
  | _ => none

end Request

end SwitchBench
