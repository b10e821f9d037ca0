import SwitchBench.Message.Request
import SwitchBench.Message.Response

/-! Reading messages from a stream of bytes.

One message is read. It ends with the bracket that closes it, so the other side
need not close the stream, and what follows is not looked at. A stream of white
space carries no message. -/
namespace SwitchBench

/-- Why no message could be read. -/
inductive ReadError where
  | truncated
  | malformed
  /-- The other side fell silent without closing the stream. -/
  | stalled
deriving DecidableEq

namespace ReadError

def message : ReadError → String
  | truncated => "connection closed before a complete message was received"
  | malformed => "malformed message: ..."
  | stalled => "transport error: Resource temporarily unavailable (os error 11)"

end ReadError

/-- No more bytes than these are read for one message. -/
def messageLimit : Nat := 1024 * 1024

/-- The bytes of a text. -/
def utf8 (cs : List Char) : List UInt8 := cs.flatMap String.utf8EncodeChar

/-- What the other side does after its bytes. -/
inductive Ending where
  | closes
  | holds
deriving DecidableEq

/-- Reads one message of the given fields; nothing when there is none. -/
def readMessage {α : Type} (fields : List Json.Field) (ofSlots? : List (Option Json) → Option α)
    (ending : Ending) (bytes : List UInt8) : Except ReadError (Option α) :=
  let taken := bytes.take messageLimit
  if ending = .holds ∧ bytes.length < messageLimit ∧ !Json.Record.isSettled fields taken then
    .error .stalled
  else match Json.Record.read fields taken with
    | .nothing => .ok none
    | .cut => .error .truncated
    | .malformed => .error .malformed
    | .record slots => match ofSlots? slots with
      | some a => .ok (some a)
      | none => .error .malformed

def Request.read (ending : Ending) (bytes : List UInt8) : Except ReadError (Option Request) :=
  readMessage fields ofSlots? ending bytes

def Response.read (ending : Ending) (bytes : List UInt8) : Except ReadError (Option Response) :=
  readMessage fields ofSlots? ending bytes

/-- The bytes that carry a request. -/
def Request.bytes (r : Request) : List UInt8 := utf8 r.encode

/-- The bytes that carry a response. -/
def Response.bytes (r : Response) : List UInt8 := utf8 r.encode

end SwitchBench
