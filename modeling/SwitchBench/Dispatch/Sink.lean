import SwitchBench.Dispatch.Command
import SwitchBench.Dispatch.Failure

/-! Where commands go.

A sink carries commands out and keeps a state of its own: the bench at hand, or what
a server on the other side of a network keeps. The interlock stands in front of a
sink: while it is tripped no port command gets through. -/
namespace SwitchBench

/-- Carries out a command in a state. -/
abbrev Sink (σ : Type) := Command → σ → Except DispatchError Reply × σ

/-- A sink behind the interlock. -/
def Sink.guarded {σ : Type} (sink : Sink σ) (tripped : Bool) : Sink σ := fun c s =>
  if c.setsPort && tripped then (.error .interlock, s) else sink c s

/-! ### The bench at hand -/

/-- Carries out a command on a bench. -/
def Bench.perform (b : Bench) : Command → Except SwitchError String × Bench
  | .connect id _ _ =>
    let (r, b) := b.connect id
    (r.map fun _ => acknowledgement, b)
  | .disconnect id =>
    let (r, b) := b.disconnect id
    (r.map fun _ => acknowledgement, b)
  | .port id n => b.setPort id n
  | .speed id mode => b.setSpeed id mode
  | .read id p => b.read id p

/-- The sink that is the bench at hand. -/
def benchSink : Sink Bench := fun c b =>
  match b.perform c with
  | (.ok text, b) => (.ok (.ofText text), b)
  | (.error e, b) => (.error (.ofSwitchError c.id e), b)

/-! ### A server on the network -/

/-- What comes of putting bytes to a server. -/
inductive Delivery where
  | unresolved (reason : SystemError)
  | unreachable (reason : SystemError)
  | broken (reason : SystemError)
  /-- What the server sent, and what it did then. -/
  | answered (bytes : List UInt8) (ending : Ending)
deriving DecidableEq

/-- The other side of a network: what it does with bytes, in a state. -/
abbrev Link (σ : Type) := List UInt8 → σ → Delivery × σ

def Delivery.response : Delivery → Except TransportError Response
  | unresolved reason => .error (.resolve reason)
  | unreachable reason => .error (.connect reason)
  | broken reason => .error (.write reason)
  | answered bytes ending =>
    match Response.read ending bytes with
    | .ok (some r) => .ok r
    | .ok none | .error .truncated => .error .closed
    | .error .malformed => .error (.decode .malformed)
    | .error .stalled => .error .timeout

/-- What a response to a command on `id` says. -/
def Response.reply (id : SwitchId) (r : Response) : Except DispatchError Reply :=
  match r.fault? with
  | some f => .error (.ofFault id f)
  | none =>
    if r.isInvalid then .error (.remote ⟨.other, "Invalid command"⟩)
    else if r.text? = Response.fail.text? then .error (.remote ⟨.device, "fail"⟩)
    else .ok ⟨r.data⟩

/-- The sink that puts each command to a server, one request to a connection. -/
def networkSink {σ : Type} (endpoint : String) (link : Link σ) : Sink σ := fun c s =>
  let (delivery, s) := link c.request.bytes s
  match delivery.response with
  | .ok r => (r.reply c.id, s)
  | .error e => (.error (.transport endpoint e), s)

end SwitchBench
