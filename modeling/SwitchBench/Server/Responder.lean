import SwitchBench.Dispatch.Sink
import SwitchBench.Server.Router

/-! Serving connections.

A connection carries one request. A malformed one is answered as invalid; one that
is cut off, or none at all, gets no answer. -/
namespace SwitchBench

/-- Serves a connection on which the other side sends `bytes`. -/
def Bench.serve (limit : Nat) (b : Bench) (ending : Ending) (bytes : List UInt8) :
    Option Response × Bench :=
  match Request.read ending bytes with
  | .ok (some r) =>
    let (response, b) := b.answer limit r
    (some response, b)
  | .error .malformed => (some .invalid, b)
  | .ok none | .error .truncated | .error .stalled => (none, b)

/-- A server as the other side of a network. -/
def serverLink (limit : Nat) : Link Bench := fun bytes b =>
  let (response, b) := b.serve limit .closes bytes
  (.answered ((response.map Response.bytes).getD []) .closes, b)

end SwitchBench
