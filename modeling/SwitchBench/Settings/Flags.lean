import SwitchBench.Settings.Settings
import SwitchBench.Text.Cut

/-! Flags: settings on the command line.

Every setting has a flag, and one more flag names a file of settings. A flag takes one
value, after an equals sign or as the next argument. The value may be any text that a
flag could not be: one that begins with a dash is refused, a dash by itself is not. A
flag may be given once, and nothing but flags may be given. -/
namespace SwitchBench

inductive Flag where
  | file
  | setting (k : Setting)
deriving DecidableEq

namespace Flag

def all : List Flag := file :: Setting.all.map setting

/-- The name behind the two dashes. -/
def name : Flag → String
  | file => "config-path"
  | setting k => k.name.map fun c => if c = '_' then '-' else c

def ofName? (cs : List Char) : Option Flag := all.find? fun f => f.name.toList == cs

theorem ofName?_name (f : Flag) : ofName? f.name.toList = some f := by
  rcases f with _ | k
  · decide +kernel
  · cases k <;> decide +kernel

/-- The letter behind a single dash. Where settings begin with the same letter, the
second has the capital and a third has none. -/
def letter? : Flag → Option Char
  | setting .role => some 'r'
  | setting .controlEndpoint => some 'c'
  | setting .listenEndpoint => some 'l'
  | setting .requestTimeout => some 'R'
  | setting .searchTimeout => some 's'
  | setting .logFilter => some 'L'
  | setting .responderTimeout | setting .logFormat | file => none

def ofLetter? (c : Char) : Option Flag := all.find? fun f => f.letter? == some c

/-- What a value says, if it fits the flag. -/
def datum? (f : Flag) (value : List Char) : Option Datum :=
  match f with
  | setting .role => (Role.ofWord? value).map fun r => .text r.name
  | setting .controlEndpoint | setting .listenEndpoint =>
    (Endpoint.ofText value).toOption.map fun e => .text e.display
  | setting .requestTimeout | setting .responderTimeout | setting .searchTimeout =>
    (Text.word64? value).map fun n => .whole n.toNat
  | setting .logFilter => some (.text (.ofList value))
  | setting .logFormat => (LogFormat.ofWord? value).map fun l => .text l.name
  | file => if value = [] then none else some (.text (.ofList value))

end Flag

/-- What flags say. -/
structure Flags where
  file : Option String
  layer : Layer
deriving DecidableEq

namespace Flags

/-- No flags. -/
def empty : Flags := ⟨none, []⟩

/-- One more flag, if it was not given before and its value fits. -/
def add? (fs : Flags) (f : Flag) (value : List Char) : Option Flags := do
  let d ← f.datum? value
  match f with
  | .file => if fs.file.isSome then failure else return { fs with file := d.text? }
  | .setting k =>
    if fs.layer.any fun e => e.1 == k then failure
    else return { fs with layer := fs.layer ++ [(k, d)] }

/-- Whether an argument can only be a flag. -/
def isDashed : List Char → Bool
  | '-' :: _ :: _ => true
  | _ => false

/-- An argument that is a flag, with the value that it brings along. -/
def flag? : List Char → Option (Flag × Option (List Char))
  | '-' :: '-' :: text =>
    match Text.cutFirst? '=' text with
    | some (name, value) => (Flag.ofName? name).map (·, some value)
    | none => (Flag.ofName? text).map (·, none)
  | ['-', c] => (Flag.ofLetter? c).map (·, none)
  | '-' :: c :: '=' :: value => (Flag.ofLetter? c).map (·, some value)
  | '-' :: c :: value => (Flag.ofLetter? c).map (·, some value)
  | _ => none

/-- Reads arguments. Two dashes by themselves end the flags, so nothing may follow. -/
def read? (fs : Flags) : List (List Char) → Option Flags
  | [] => some fs
  | arg :: rest =>
    if arg = ['-', '-'] then if rest = [] then some fs else none
    else match flag? arg, rest with
      | some (f, some value), rest => (fs.add? f value).bind (read? · rest)
      | some (f, none), value :: rest =>
        if isDashed value then none else (fs.add? f value).bind (read? · rest)
      | some (_, none), [] | none, _ => none

/-- The flags that arguments are. -/
def ofArguments? (args : List String) : Option Flags := empty.read? (args.map String.toList)

end Flags

end SwitchBench
