import SwitchBench.Settings.Datum

/-! Tables of a TOML document.

A key gets a value once. A table gets its values in one place: under one header, or
through keys with dots that begin with its name. A header that names a table inside
other tables brings those about where there are none. -/
namespace SwitchBench.Toml

/-- How a table came about. -/
inductive Origin where
  | header
  /-- It was needed for a table inside it. -/
  | implied
  /-- It was needed for a key with dots. -/
  | dotted
deriving DecidableEq

inductive Node where
  | datum (d : Datum)
  | table (origin : Origin) (members : List (String × Node))
  /-- A list of tables, of which only the last can still change. -/
  | rows (last : List (String × Node))

abbrev Members := List (String × Node)

namespace Members

def get? (ms : Members) (name : String) : Option Node := (ms.find? fun m => m.1 == name).map Prod.snd

/-- Replaces a member that is there, or adds it behind the others. -/
def set (ms : Members) (name : String) (node : Node) : Members :=
  if ms.any fun m => m.1 == name then ms.map fun m => if m.1 == name then (name, node) else m
  else ms ++ [(name, node)]

/-- Gives a key its value. -/
def assign? (ms : Members) : List String → Datum → Option Members
  | [], _ => none
  | [name], d => if (ms.get? name).isSome then none else some (ms.set name (.datum d))
  | name :: rest, d =>
    match ms.get? name with
    | none => (assign? [] rest d).map fun inner => ms.set name (.table .dotted inner)
    | some (.table .dotted inner) =>
      (assign? inner rest d).map fun inner => ms.set name (.table .dotted inner)
    | some _ => none

/-- Changes the table at the end of a path, and what is brought about on the way. -/
def along? (change : Members → String → Option Members) (ms : Members) : List String → Option Members
  | [] => none
  | [name] => change ms name
  | name :: rest =>
    match ms.get? name with
    | none => (along? change [] rest).map fun inner => ms.set name (.table .implied inner)
    | some (.table origin inner) =>
      (along? change inner rest).map fun inner => ms.set name (.table origin inner)
    | some (.rows last) => (along? change last rest).map fun last => ms.set name (.rows last)
    | some (.datum _) => none

/-- Begins the table that a header names. -/
def header? : Members → List String → Option Members := along? fun ms name =>
  match ms.get? name with
  | none => some (ms.set name (.table .header []))
  | some (.table .implied inner) => some (ms.set name (.table .header inner))
  | some _ => none

/-- Begins one more table of the list that a header names. -/
def row? : Members → List String → Option Members := along? fun ms name =>
  match ms.get? name with
  | none | some (.rows _) => some (ms.set name (.rows []))
  | some _ => none

/-- Gives a key its value in the table under the header `path`. -/
def put? (ms : Members) (path key : List String) (d : Datum) : Option Members :=
  match path with
  | [] => ms.assign? key d
  | path => ms.along? (fun ms name =>
      match ms.get? name with
      | some (.table origin inner) =>
        (assign? inner key d).map fun inner => ms.set name (.table origin inner)
      | some (.rows last) => (assign? last key d).map fun last => ms.set name (.rows last)
      | some (.datum _) | none => none) path

/-- What the table of the members is to a setting. -/
def datum (ms : Members) : Datum := .table (ms.map fun m => (m.1, match m.2 with
  | .datum d => d == .null
  | .table .. | .rows _ => false))

/-- What the members say. -/
def entries (ms : Members) : List (String × Datum) :=
  ms.map fun m => (m.1, match m.2 with
    | .datum d => d
    | .table _ inner => datum inner
    | .rows _ => .other)

end Members

end SwitchBench.Toml
