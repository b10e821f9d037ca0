import SwitchBench.Message.Reading
import SwitchBench.SystemError

/-! Why a command was not carried out. -/
namespace SwitchBench

/-- Why no response came over the network. -/
inductive TransportError where
  | resolve (reason : SystemError)
  | connect (reason : SystemError)
  | timeout
  | write (reason : SystemError)
  | closed
  | decode (reason : ReadError)
deriving DecidableEq

def TransportError.message (endpoint : String) : TransportError → String
  | resolve reason => s!"failed to resolve {endpoint}: {reason.message}"
  | connect reason => s!"failed to connect to {endpoint}: {reason.message}"
  | timeout => s!"timed out waiting for {endpoint}"
  | write reason => s!"failed to send request to {endpoint}: transport error: {reason.message}"
  | closed => s!"{endpoint} closed the connection without a response"
  | decode reason => s!"invalid response from {endpoint}: {reason.message}"

inductive DispatchError where
  | transport (endpoint : String) (reason : TransportError)
  | noResponse (id : SwitchId)
  /-- The server reports a failure. -/
  | remote (fault : Fault)
  /-- The bench at hand reports a failure. -/
  | device (error : SwitchError)
  /-- The interlock is tripped. -/
  | interlock
deriving DecidableEq

namespace DispatchError

def message : DispatchError → String
  | transport endpoint reason => s!"Control Computer Connection Fail: {reason.message endpoint}"
  | noResponse id => s!"switch {id.text} did not respond"
  | remote fault => s!"remote error ({fault.kind.label}): {fault.message}"
  | device e => e.message
  | interlock => "Stop Event occurred!"

/-- A switch that does not answer is reported alike wherever it is. -/
def ofSwitchError (id : SwitchId) : SwitchError → DispatchError
  | .noResponse _ => noResponse id
  | e => device e

def ofFault (id : SwitchId) (f : Fault) : DispatchError :=
  if f.kind = .noResponse then noResponse id else remote f

end DispatchError

end SwitchBench
