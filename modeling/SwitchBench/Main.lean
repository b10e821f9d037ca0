import SwitchBench.CommandLine.Program
import SwitchBench.Endpoint.Resolution

/-! The program: what the command line meets outside, and how its answer is shown.

This program carries no network of its own, so commands that go to a server find none.
A run without end goes on until the program is ended from outside. -/
namespace SwitchBench.Main

/-- What the system says of a file that it does not give. -/
def reason : IO.Error → SystemError
  | .inappropriateType _ code _ => if code = 21 then .isADirectory else .notADirectory
  | .invalidArgument _ code _ => if code = 36 then .nameTooLong else .invalidArgument
  | _ => .notFound

/-- The files of the system. -/
def files : FileSource IO := fun path => do
  try
    let bytes ← IO.FS.readBinFile (String.ofList path)
    return .ok (.file bytes.toList)
  catch e =>
    match reason e with
    | .isADirectory => return .ok .folder
    | e => return .error e

/-- The variables that settings may come from, in capitals. -/
def variableNames : List String :=
  Variable.fileName :: Setting.all.map fun k => "SWITCHCTL_" ++ k.name.toUpper

def environment : IO (List (String × String)) :=
  variableNames.filterMapM fun name => do
    return (← IO.getEnv name).map (name, ·)

/-- Waits for the end from outside. -/
partial def goOn : IO Unit := do
  IO.sleep 1000
  goOn

def outside : IO (Outside IO Unit) := do
  return {
    files
    environment := ← environment
    link := fun e _ s => match resolve e.host with
      | .ok _ => (.unreachable .networkUnreachable, s)
      | .error reason => (.unresolved reason, s)
    logging := .absent }

/-- Shows an answer and gives the code to end with. -/
def conclude (a : Answer) : IO UInt32 := do
  let o := a.outcome
  o.remarks.forM fun l => IO.eprintln l
  o.answer.forM fun l => IO.println l
  match a with
  | .endless => goOn
  | .usage _ | .noSettings _ | .noLogging _ | .done _ => pure ()
  return if o.succeeded then 0 else 1

end SwitchBench.Main

open SwitchBench in
def main (args : List String) : IO UInt32 := do
  let (a, _) ← answer (← Main.outside) ("switchctl" :: args) ()
  Main.conclude a
