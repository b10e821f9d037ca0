import SwitchBench.Files.Tree
import SwitchBench.Settings.Flags
import SwitchBench.Settings.Variables
import SwitchBench.Text.Case
import SwitchBench.Toml.Document

/-! Loading settings.

Flags lie above variables, and variables above a file. The file is the one that a flag
names, which has to be there, or else the one that a variable names, unless nothing is
there. A file may name another that it extends; that one lies below it and has to be
there. -/
namespace SwitchBench

/-- Why there are no settings. -/
inductive SettingsError where
  | flags
  | missingFile (path : String)
  | unreadableFile (path : String)
  /-- What the layers say of some setting does not fit. -/
  | values
deriving DecidableEq

def SettingsError.message : SettingsError → String
  | flags => "a flag is unknown, repeated, without a value or has one that does not fit"
  | missingFile path => s!"there is no file {path}"
  | unreadableFile path => s!"the file {path} is no settings file"
  | values => "a setting has a value that does not fit"

namespace Settings

/-- Where the settings of a file that it extends are named. -/
def extendsName : String := "extends"

/-- A chain of files that extend one another is shorter than this. -/
def chainLimit : Nat := 1000

/-- The name of a file says how its text is written; only some ways are known. -/
def isKnownForm (path : List Char) : Bool :=
  match Path.extension? path with
  | some ext => !(["json", "json5", "yaml", "yml"].contains (String.ofList (Text.lower ext)))
  | none => true

/-- What a settings file says. -/
def document? (path : List Char) (bytes : List UInt8) : Option (List (String × Datum)) := do
  let text ← String.fromUTF8? ⟨bytes.toArray⟩
  if isKnownForm path then Toml.ofText? text.toList else none

/-- The file that entries say they extend, where they say so properly. -/
def extended? (entries : List (String × Datum)) : Option (Option (List Char)) :=
  match entries.find? fun e => e.1 == extendsName with
  | none => some none
  | some (_, .text s) => if s.isEmpty then none else some (some s.toList)
  | some (_, .whole _) | some (_, .null) | some (_, .table _) | some (_, .other) => none

section
variable {m : Type → Type} [Monad m] (files : FileSource m)

/-- The layers of a file and of the files that it extends, the topmost first. No file may
come again in the chain. -/
def fileLayers (path : List Char) (before : List (List (List Char))) :
    Nat → m (Except SettingsError (List Layer))
  | 0 => return .error (.unreadableFile (.ofList path))
  | n + 1 => do
    match ← files path with
    | .error _ | .ok .folder => return .error (.missingFile (.ofList path))
    | .ok (.file bytes) =>
      let unreadable : SettingsError := .unreadableFile (.ofList path)
      if before.contains (Path.resolved path) then return .error unreadable
      else match document? path bytes with
        | none => return .error unreadable
        | some entries =>
          match extended? entries with
          | none => return .error unreadable
          | some none => return .ok [.ofEntries entries]
          | some (some base) =>
            let below ← fileLayers (Path.inFolder (Path.folder path) base)
              (Path.resolved path :: before) n
            return below.map (.ofEntries entries :: ·)

/-- Whether nothing stands at a path. -/
def isMissing (path : List Char) : m Bool := do
  match ← files path with
  | .error e => return e == .notFound
  | .ok _ => return false

/-- The layers of the settings file, if there is one. -/
def chosenLayers (named : Option String) (environment : List (String × String)) :
    m (Except SettingsError (List Layer)) := do
  match named, environment.find? fun e => e.1 == Variable.fileName with
  | some path, _ => fileLayers files path.toList [] chainLimit
  | none, some (_, path) =>
    if ← isMissing files path.toList then return .ok []
    else fileLayers files path.toList [] chainLimit
  | none, none => return .ok []

/-- The settings that arguments and an environment give. -/
def load (args : List String) (environment : List (String × String)) :
    m (Except SettingsError Settings) := do
  match Flags.ofArguments? args with
  | none => return .error .flags
  | some flags =>
    match ← chosenLayers files flags.file environment with
    | .error e => return .error e
    | .ok below =>
      match ofLayers? (flags.layer :: .ofVariables environment :: below) with
      | some s => return .ok s
      | none => return .error .values

end

end Settings

end SwitchBench
