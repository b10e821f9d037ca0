import SwitchBench.Settings.Flags

/-! Splitting a command line.

Flags of settings come first, right behind the name of the program; the command begins
at the first argument that is none of them. A flag that brings no value along takes the
next argument for its value, whatever that is. An argument need not be a text: all that
matters here is what it shows. -/
namespace SwitchBench

/-- A command line split in two. -/
structure ArgumentSplit (α : Type) where
  /-- The name of the program and the flags of settings. -/
  flagArguments : List α
  /-- Where the command begins. -/
  commandStart : Nat
deriving DecidableEq

namespace ArgumentSplit

/-- A flag of a setting as an argument: whether it brings its value along. -/
def hasValue? : List Char → Option Bool
  | '-' :: '-' :: text =>
    match Text.cutFirst? '=' text with
    | some (name, _) => (Flag.ofName? name).map fun _ => true
    | none => (Flag.ofName? text).map fun _ => false
  | _ => none

section
variable {α : Type} (text : α → List Char)

/-- One more argument is for the settings. -/
def extend (split : ArgumentSplit α) (arg : α) : ArgumentSplit α :=
  ⟨split.flagArguments ++ [arg], split.commandStart + 1⟩

/-- Goes on with the arguments behind those that are split off already; `text` is what an
argument shows. -/
def goOn (split : ArgumentSplit α) : List α → ArgumentSplit α
  | [] => split
  | arg :: rest =>
    match hasValue? (text arg), rest with
    | some true, rest => goOn (split.extend arg) rest
    | some false, value :: rest => goOn ((split.extend arg).extend value) rest
    | some false, [] => split.extend arg
    | none, _ => split

/-- Splits a command line that begins with the name of the program. -/
def ofList : List α → ArgumentSplit α
  | [] => ⟨[], 0⟩
  | name :: rest => goOn text ⟨[name], 1⟩ rest

end

/-- Splits a command line of texts. -/
def ofArguments (args : List String) : ArgumentSplit String := ofList String.toList args

/-- The name of the program and the arguments of the command. -/
def commandArguments {α : Type} (split : ArgumentSplit α) (args : List α) : List α :=
  args.take 1 ++ args.drop split.commandStart

end ArgumentSplit

end SwitchBench
