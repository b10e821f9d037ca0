import SwitchBench.Files.Tree

/-! Script files.

The file is looked for by its name in the folder that its path leads through. -/
namespace SwitchBench

/-- Why there is no script. -/
inductive ScriptFileError where
  /-- The path leads to no name in a folder. -/
  | nameless
  | system (reason : SystemError)
deriving DecidableEq

namespace ScriptFileError

def message : ScriptFileError → String
  | nameless => "path does not name a file"
  | system reason => reason.message

end ScriptFileError

/-- The script in the bytes of a file. -/
def scriptText? (bytes : List UInt8) : Option (List Char) :=
  (String.fromUTF8? ⟨bytes.toArray⟩).map String.toList

/-- Reads a script from files. -/
def readScript {m : Type → Type} [Monad m] (files : FileSource m) (path : List Char) :
    m (Except ScriptFileError (List Char)) := do
  match Path.split? path with
  | none => return .error .nameless
  | some (folder, name) =>
    match ← files folder with
    | .error e => return .error (.system e)
    | .ok (.file _) => return .error (.system .notADirectory)
    | .ok .folder =>
      if '\x00' ∈ name then return .error (.system .invalidArgument)
      else match ← files (Path.inFolder folder name) with
        | .error e => return .error (.system e)
        | .ok .folder => return .error (.system .isADirectory)
        | .ok (.file bytes) =>
          match scriptText? bytes with
          | some text => return .ok text
          | none => return .error (.system .invalidText)

end SwitchBench
