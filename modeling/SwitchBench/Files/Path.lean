/-! Paths: names of files, with slashes between their parts.

Empty parts and the part `.` stand for the folder that is already reached, and `..`
for the folder around it. -/
namespace SwitchBench.Path

/-- The texts between slashes. -/
def parts (path : List Char) : List (List Char) := path.splitOn '/'

/-- The parts that lead somewhere. -/
def steps (path : List Char) : List (List Char) :=
  (parts path).filter fun p => p != [] && p != ['.']

def isAbsolute (path : List Char) : Bool := path.head? == some '/'

/-- The path of the given steps. With none of them a relative path stays where it is. -/
def ofSteps (absolute : Bool) (steps : List (List Char)) : List Char :=
  let joined := ['/'].intercalate steps
  if absolute then '/' :: joined else if steps = [] then ['.'] else joined

/-- The folder that a path leads through last, and the name of what it leads to there. A
path that ends outside the folder has no such name. -/
def split? (path : List Char) : Option (List Char × List Char) :=
  match (steps path).getLast? with
  | none | some ['.', '.'] => none
  | some name => some (ofSteps (isAbsolute path) (steps path).dropLast, name)

/-- A name in a folder. A name that is itself an absolute path needs no folder. -/
def inFolder (folder name : List Char) : List Char :=
  if isAbsolute name then name else folder ++ '/' :: name

/-- The folder of the file that a path names. -/
def folder (path : List Char) : List Char :=
  ofSteps (isAbsolute path) (steps path).dropLast

/-- The steps of a path with each `..` set against the step before it. -/
def resolved (path : List Char) : List (List Char) :=
  ((steps path).foldl (fun done p =>
    match done with
    | last :: before => if p = ['.', '.'] ∧ last ≠ ['.', '.'] then before else p :: done
    | [] => if p = ['.', '.'] ∧ isAbsolute path then [] else [p]) []).reverse

/-- What stands behind the last dot of a name, if something stands in front of it. -/
def extension? (path : List Char) : Option (List Char) :=
  (steps path).getLast?.bind fun name =>
    let back := name.reverse
    match back.dropWhile (· != '.') with
    | '.' :: _ :: _ => some (back.takeWhile (· != '.')).reverse
    | _ => none

end SwitchBench.Path
