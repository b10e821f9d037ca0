import SwitchBench.Endpoint.Url

/-! Endpoints: the host and the port where a server is reached.

An endpoint is written `tcp://host:port`, with a host that holds colons in brackets.
User, path, query and fragment of the text that names it do not matter. -/
namespace SwitchBench

structure Endpoint where
  host : String
  port : UInt16
deriving DecidableEq

inductive EndpointError where
  | url (reason : UrlError)
  | unsupportedScheme (scheme : String)
  | missingHost (text : String)
  | missingPort (text : String)
deriving DecidableEq

def EndpointError.message : EndpointError → String
  | url reason => reason.message
  | unsupportedScheme scheme => s!"unsupported endpoint scheme '{scheme}'"
  | missingHost text => s!"missing TCP host in '{text}'"
  | missingPort text => s!"missing TCP port in '{text}'"

namespace Endpoint

def text (e : Endpoint) : List Char :=
  let host := e.host.toList
  "tcp://".toList ++ (if ':' ∈ host then '[' :: host ++ [']'] else host) ++
    ':' :: Text.decimal e.port.toNat

def display (e : Endpoint) : String := String.ofList e.text

/-- Without brackets at the ends. -/
def unbracketed (cs : List Char) : List Char :=
  ((cs.dropWhile (· == '[')).reverse.dropWhile (· == ']')).reverse

/-- Reads an endpoint. -/
def ofText (text : List Char) : Except EndpointError Endpoint :=
  match Url.ofText text with
  | .error e => .error (.url e)
  | .ok url =>
    if url.scheme ≠ "tcp".toList then .error (.unsupportedScheme (.ofList url.scheme))
    else match url.host, url.port with
      | none, _ => .error (.missingHost (.ofList text))
      | some _, none => .error (.missingPort (.ofList text))
      | some host, some port => .ok ⟨.ofList (unbracketed host), port⟩

def withPort (e : Endpoint) (port : UInt16) : Endpoint := { e with port }

end Endpoint

end SwitchBench
