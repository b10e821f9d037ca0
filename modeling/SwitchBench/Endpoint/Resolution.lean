import SwitchBench.Endpoint.Ipv4
import SwitchBench.SystemError
import SwitchBench.Text.Case

/-! What the name of a host stands for.

An address stands for itself, whichever way it is written, and `localhost` stands for
the machine at hand. To find any other name someone else would have to be asked, and
nobody is there who answers. -/
namespace SwitchBench

/-- The address that the name of a host stands for. -/
def resolve (host : String) : Except SystemError String :=
  let cs := host.toList
  if '\x00' ∈ cs then .error .nulInName
  else if Text.lower cs = "localhost".toList then .ok "127.0.0.1"
  else match Ipv4.ofHost? cs, Ipv6.ofText? cs with
    | some a, _ => .ok (.ofList a.text)
    | none, some a => .ok (.ofList a.text)
    | none, none => .error .unknownHost

end SwitchBench
