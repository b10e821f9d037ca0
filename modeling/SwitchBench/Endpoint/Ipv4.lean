import SwitchBench.Endpoint.Ipv6
import SwitchBench.Text.Numeral

/-! IPv4 addresses and the many ways to write them.

An address is written as one to four numbers with points between them. A number has
decimal digits, octal digits behind a zero or hexadecimal digits behind `0x`. All
numbers but the last are bytes, and the last one fills what they leave, so `127.1` is
`127.0.0.1`. -/
namespace SwitchBench

structure Ipv4 where
  bits : UInt32
deriving DecidableEq

namespace Ipv4

/-- One number of an address. The mark `0x` without digits is zero. -/
def number? : List Char → Option Nat
  | [] => none
  | '0' :: 'x' :: ds | '0' :: 'X' :: ds => Ipv6.hexNumber? 0 ds
  | '0' :: d :: ds =>
    if (d :: ds).all fun c => '0' ≤ c && c ≤ '7' then some (Nat.ofDigitChars 8 (d :: ds) 0) else none
  | ds => if ds.all Char.isDigit then some (Nat.ofDigitChars 10 ds 0) else none

/-- The address of numbers. -/
def ofNumbers? (ns : List Nat) : Option Ipv4 :=
  match ns.reverse with
  | last :: bytes =>
    if ns.length ≤ 4 ∧ bytes.all (· ≤ 255) ∧ last < Nat.pow 256 (5 - ns.length) then
      let above := bytes.reverse.foldl (fun n b => n * 256 + b) 0
      some ⟨.ofNat (above * Nat.pow 256 (5 - ns.length) + last)⟩
    else none
  | [] => none

/-- The parts of a name, without an empty one at the end. -/
def parts (cs : List Char) : List (List Char) :=
  let ps := cs.splitOn '.'
  if ps.getLast? = some [] then ps.dropLast else ps

/-- Whether a name ends in a number; as a host it can then only be an address. -/
def endsInNumber (cs : List Char) : Bool :=
  match (parts cs).getLast? with
  | some p => (!p.isEmpty && p.all Char.isDigit) || (number? p).isSome
  | none => false

/-- The address in a URL, where a point may follow the last number. -/
def ofName? (cs : List Char) : Option Ipv4 := ((parts cs).mapM number?).bind ofNumbers?

/-- The address in the name of a host. It ends in a number, and no mark lacks its
digits. -/
def ofHost? (cs : List Char) : Option Ipv4 :=
  let ps := cs.splitOn '.'
  if ['0', 'x'] ∈ ps ∨ ['0', 'X'] ∈ ps then none else (ps.mapM number?).bind ofNumbers?

/-- The four bytes of an address, in decimal digits. -/
def text (a : Ipv4) : List Char :=
  let n := a.bits.toNat
  ['.'].intercalate ([n / 16777216, n / 65536 % 256, n / 256 % 256, n % 256].map Text.decimal)

end Ipv4

end SwitchBench
