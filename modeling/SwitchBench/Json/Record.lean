import SwitchBench.Json.Walk

/-! Messages that are records.

A record has named fields. It is written as an object with its fields in any order,
or as an array with its fields in theirs. Fields of other names are stepped over in
an object and refused in an array; a field may not come twice. What follows the
record is not looked at, so a record is read as soon as its last byte is there. -/
namespace SwitchBench.Json

/-- A field of a record. A scalar field is refused as soon as an array or object
begins; what its value may be otherwise is for `accepts` to say. -/
structure Field where
  name : String
  required : Bool
  scalar : Bool
  accepts : Json → Bool

namespace Record

/-- How a record is written. By place, `next` is the field that comes next. -/
inductive Layout where
  | byName
  | byPlace (next : Nat)
deriving DecidableEq

/-- Where a reader stands. A target is the field that a value is for; a value
without a target is stepped over. -/
inductive Stage where
  | start
  /-- A value that is no record, to be refused when it has ended. -/
  | stray (w : Walk)
  /-- After the opening brace: a name or the closing brace. -/
  | member
  /-- After a comma in an object: a name. -/
  | name
  | nameText (s : TextScan)
  | colon (target : Option Nat)
  /-- After the opening bracket: a value or the closing bracket. -/
  | item
  | due (target : Option Nat)
  | inside (target : Option Nat) (w : Walk)
  | after

structure State where
  layout : Layout
  slots : List (Option Json)
  stage : Stage

/-- Values nested in a record may have so many levels of their own. -/
def room : Nat := 126

def mode (target : Option Nat) : Mode := if target.isSome then .keep room else .skip

section
variable (fields : List Field)

def start : State := ⟨.byName, fields.map fun _ => none, .start⟩

/-- Every required field has a value. -/
def isComplete (slots : List (Option Json)) : Bool :=
  (fields.zip slots).all fun p => !p.1.required || p.2.isSome

/-- The record ends. -/
def close (s : State) : Fed State (List (Option Json)) :=
  if isComplete fields s.slots then .done s.slots else .bad

/-- A value ends; it goes to its field if the field accepts it. -/
def store (s : State) (target : Option Nat) (v : Json) : Option State :=
  match target with
  | none => some { s with stage := .after }
  | some i =>
    match fields[i]? with
    | some f => if f.accepts v then some { s with slots := s.slots.set i (some v), stage := .after } else none
    | none => none

/-- The first byte of a value. -/
def enter (s : State) (target : Option Nat) (b : UInt8) : Fed State (List (Option Json)) :=
  let scalar := ((target.bind (fields[·]?)).map (·.scalar)).getD false
  if scalar && (b == 0x5B || b == 0x7B) then .bad
  else match Walk.enter (mode target) [] b with
    | some w => .more { s with stage := .inside target w }
    | none => .bad

/-- A byte after a value of the record. -/
def separate (s : State) (b : UInt8) : Fed State (List (Option Json)) :=
  if isSpace b then .more s
  else match s.layout with
    | .byName =>
      if b == 0x2C then .more { s with stage := .name }
      else if b == 0x7D then close fields s
      else .bad
    | .byPlace next =>
      if b == 0x5D then close fields s
      else if b == 0x2C && next < fields.length then
        .more { s with layout := .byPlace (next + 1), stage := .due (some next) }
      else .bad

def feed (s : State) (b : UInt8) : Fed State (List (Option Json)) :=
  match s.stage with
  | .start =>
    if isSpace b then .more s
    else if b == 0x7B then .more { s with layout := .byName, stage := .member }
    else if b == 0x5B then .more { s with layout := .byPlace 0, stage := .item }
    else match Walk.enter (.keep room) [] b with
      | some w => .more { s with stage := .stray w }
      | none => .bad
  | .stray w =>
    match w.feed (.keep room) b with
    | .more w => .more { s with stage := .stray w }
    | _ => .bad
  | .member =>
    if isSpace b then .more s
    else if b == 0x7D then close fields s
    else if b == 0x22 then .more { s with stage := .nameText .start }
    else .bad
  | .name =>
    if isSpace b then .more s
    else if b == 0x22 then .more { s with stage := .nameText .start }
    else .bad
  | .nameText t =>
    match t.feed (.keep room) b with
    | .more t => .more { s with stage := .nameText t }
    | .done n | .past n =>
      let target := fields.findIdx? fun f => f.name == n
      -- A field that has a value already may not come again.
      if ((target.bind (s.slots[·]?)).join).isSome then .bad
      else .more { s with stage := .colon target }
    | .bad => .bad
  | .colon target =>
    if isSpace b then .more s
    else if b == 0x3A then .more { s with stage := .due target }
    else .bad
  | .item =>
    if isSpace b then .more s
    else if b == 0x5D then close fields s
    else enter fields { s with layout := .byPlace 1 } (some 0) b
  | .due target => if isSpace b then .more s else enter fields s target b
  | .inside target w =>
    match w.feed (mode target) b with
    | .more w => .more { s with stage := .inside target w }
    | .done v => match store fields s target v with
      | some s => .more s
      | none => .bad
    | .past v => match store fields s target v with
      | some s => separate fields s b
      | none => .bad
    | .bad => .bad
  | .after => separate fields s b

/-- What a stream of bytes amounts to. -/
inductive Outcome where
  /-- Nothing but white space. -/
  | nothing
  | record (slots : List (Option Json))
  /-- The bytes end inside a record. -/
  | cut
  | malformed

/-- The stream ends. -/
def finish (s : State) : Outcome :=
  match s.stage with
  | .start => .nothing
  | .stray w => match w.finish (.keep room) with
    | .cut => .cut
    | .value _ | .bad => .malformed
  | .inside target w => match w.finish (mode target) with
    | .cut => .cut
    | .value v => match store fields s target v with
      | some _ => .cut
      | none => .malformed
    | .bad => .malformed
  | _ => .cut

/-- Reads on from a state, as far as the bytes lead. -/
def advance (s : State) : List UInt8 → Fed State (List (Option Json))
  | [] => .more s
  | b :: rest => match feed fields s b with
    | .more s => advance s rest
    | r => r

theorem advance_append (s : State) (a b : List UInt8) :
    advance fields s (a ++ b) =
      match advance fields s a with
      | .more s => advance fields s b
      | r => r := by
  induction a generalizing s with
  | nil => rfl
  | cons x a ih =>
    simp only [List.cons_append, advance]
    cases feed fields s x with
    | more s => exact ih s
    | done _ | past _ | bad => rfl

/-- Reads the first record of a stream. -/
def read (bytes : List UInt8) : Outcome :=
  match advance fields (start fields) bytes with
  | .more s => finish fields s
  | .done slots | .past slots => .record slots
  | .bad => .malformed

/-- Whether a stream that may go on is settled already. -/
def isSettled (bytes : List UInt8) : Bool :=
  match advance fields (start fields) bytes with
  | .more _ => false
  | .done _ | .past _ | .bad => true

end

end Record

end SwitchBench.Json
