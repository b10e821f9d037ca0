import SwitchBench.Files.Path
import SwitchBench.SystemError
import SwitchBench.Text.Bytes

/-! Where files are found.

A program that reads files asks for what stands at a path. A tree of folders is the
plainest thing that can be asked. -/
namespace SwitchBench

/-- What stands at a path. -/
inductive FileEntry where
  | file (bytes : List UInt8)
  | folder
deriving DecidableEq

/-- Something that can be asked for files, with whatever effect the asking has. -/
abbrev FileSource (m : Type → Type) := List Char → m (Except SystemError FileEntry)

inductive FileTree where
  | file (bytes : List UInt8)
  | folder (members : List (List Char × FileTree))

namespace FileTree

def entry : FileTree → FileEntry
  | file bytes => .file bytes
  | folder _ => .folder

/-- No folder has a member with a name of more bytes. -/
def nameLimit : Nat := 255

/-- A path has fewer bytes than this. -/
def pathLimit : Nat := 4096

/-- What the parts of a path lead to, from a folder; `around` are the folders around it,
the nearest first. Only a folder has parts. -/
def walk (at' : FileTree) (around : List FileTree) : List (List Char) → Except SystemError FileTree
  | [] => .ok at'
  | part :: rest =>
    match at' with
    | file _ => .error .notADirectory
    | folder members =>
      if part = [] ∨ part = ['.'] then walk at' around rest
      else if part = ['.', '.'] then
        match around with
        | [] => walk at' [] rest
        | outer :: around => walk outer around rest
      else if nameLimit < Text.byteLength part then .error .nameTooLong
      else match members.find? fun m => m.1 == part with
        | some (_, inner) => walk inner (at' :: around) rest
        | none => .error .notFound

/-- Puts a file where the parts of a path lead, and folders on the way to it. -/
def plant (tree : FileTree) : List (List Char) → List UInt8 → FileTree
  | [], bytes => .file bytes
  | part :: rest, bytes =>
    let members := match tree with
      | .folder ms => ms
      | .file _ => []
    let inner := ((members.find? fun m => m.1 == part).map Prod.snd).getD (.folder [])
    .folder ((members.filter fun m => m.1 != part) ++ [(part, plant inner rest bytes)])

/-- What stands at a path, from a folder that stands in nothing. -/
def find (tree : FileTree) (path : List Char) : Except SystemError FileEntry :=
  if '\x00' ∈ path then .error .nulInName
  else if path = [] then .error .notFound
  else if pathLimit ≤ Text.byteLength path then .error .nameTooLong
  else (tree.walk [] (Path.parts path)).map entry

/-- A tree that is asked for files. -/
def source (tree : FileTree) : FileSource Id := fun path => tree.find path

end FileTree

end SwitchBench
