import SwitchBench.Decimal.Binary64

/-! JSON values.

A number without fraction and exponent is kept whole when it fits 64 bits, signed
or unsigned; every other number is binary floating point. The members of an object
are in ascending order of their names, one to a name. -/
namespace SwitchBench

/-- A number of a JSON value. -/
inductive JsonNumber where
  | whole (value : Int)
  | real (value : Binary64)
deriving DecidableEq

inductive Json where
  | null
  | bool (value : Bool)
  | number (value : JsonNumber)
  | string (text : String)
  | array (items : List Json)
  | object (members : List (String × Json))

namespace Json

/-- Members with `name` bound to `v`, in place of an earlier binding. -/
def place (name : String) (v : Json) : List (String × Json) → List (String × Json)
  | [] => [(name, v)]
  | m :: rest =>
    if name < m.1 then (name, v) :: m :: rest
    else if name = m.1 then (name, v) :: rest
    else m :: place name v rest

/-- The object with the given members, where the last of one name wins. -/
def ofMembers (members : List (String × Json)) : Json :=
  .object (members.foldl (fun ms m => place m.1 m.2 ms) [])

def member? (name : String) : Json → Option Json
  | .object members => (members.find? fun m => m.1 == name).map (·.2)
  | _ => none

def text? : Json → Option String
  | .string s => some s
  | _ => none

end Json

end SwitchBench
