import SwitchBench.Settings.LogFilter

/-! Logging, which is set up once.

The first filter that is one takes effect; every later one is taken and has none. -/
namespace SwitchBench

/-- Whether logging is set up. -/
structure Logging where
  isInstalled : Bool
deriving DecidableEq

/-- The filter is none. -/
structure LoggingError where
  fault : LogFilter.Fault
deriving DecidableEq

namespace LoggingError

def message (e : LoggingError) : String :=
  match e.fault with
  | .malformed => "invalid log filter: invalid filter directive"
  | .torn => "invalid log filter: a part of a directive tears a character"

end LoggingError

namespace Logging

/-- Nothing is set up. -/
def absent : Logging := ⟨false⟩

def install (l : Logging) (filter : String) : Except LoggingError Logging :=
  if l.isInstalled then .ok l
  else match LogFilter.read filter.toList with
    | .ok () => .ok ⟨true⟩
    | .error fault => .error ⟨fault⟩

end Logging

end SwitchBench
