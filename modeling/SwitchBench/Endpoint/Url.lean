import SwitchBench.Domain.Name
import SwitchBench.Endpoint.Ipv4
import SwitchBench.Endpoint.Ipv6
import SwitchBench.Text.Case
import SwitchBench.Text.Numeral

/-! The scheme, the host and the port of a URL.

Most schemes take a host as it is, with everything outside ASCII percent-encoded.
The web's own schemes are special: a backslash counts as a slash, the host is the name
of a domain in any script and may not be empty, and a host that ends in a number is an
IPv4 address. -/
namespace SwitchBench

inductive UrlError where
  | emptyHost
  | invalidPort
  | invalidIpv4
  | invalidIpv6
  | invalidCharacter
  | invalidName
  | relative
deriving DecidableEq

def UrlError.message : UrlError → String
  | emptyHost => "empty host"
  | invalidPort => "invalid port number"
  | invalidIpv4 => "invalid IPv4 address"
  | invalidIpv6 => "invalid IPv6 address"
  | invalidCharacter => "invalid domain character"
  | invalidName => "invalid international domain name"
  | relative => "relative URL without a base"

/-- How the host of a scheme is read. -/
inductive SchemeKind where
  | plain | web | file
deriving DecidableEq

/-- A URL without its user, path, query and fragment. -/
structure Url where
  scheme : List Char
  host : Option (List Char)
  port : Option UInt16
deriving DecidableEq

namespace Url

def kindOf (scheme : List Char) : SchemeKind :=
  match String.ofList scheme with
  | "http" | "https" | "ws" | "wss" | "ftp" => .web
  | "file" => .file
  | _ => .plain

/-! ### Characters -/

def isEdge (c : Char) : Bool := c.toNat ≤ 32

def isIgnored (c : Char) : Bool := c == '\t' || c == '\n' || c == '\r'

/-- Without control characters and spaces at the ends and without tabs and line ends
anywhere. -/
def cleaned (cs : List Char) : List Char :=
  ((cs.dropWhile isEdge).reverse.dropWhile isEdge).reverse.filter fun c => !isIgnored c

/-- What ends the part of a URL that names the host. -/
def isDelimiter (kind : SchemeKind) (c : Char) : Bool :=
  c == '/' || c == '?' || c == '#' || (kind != .plain && c == '\\')

/-- What no host may hold. -/
def isForbidden (c : Char) : Bool := "\x00\t\n\r #/:<>?@[\\]^|".toList.contains c

def isSchemeChar (c : Char) : Bool := c.isAlphanum || c == '+' || c == '-' || c == '.'

def upperHex (n : Nat) : Char := (Nat.digitChar n).toUpper

def percentEncoded (b : UInt8) : List Char :=
  ['%', upperHex (b.toNat / 16), upperHex (b.toNat % 16)]

/-- With control characters and everything outside ASCII percent-encoded. -/
def encoded (cs : List Char) : List Char :=
  cs.flatMap fun c =>
    if c.toNat < 32 || 127 ≤ c.toNat then (String.utf8EncodeChar c).flatMap percentEncoded else [c]

/-! ### Hosts -/

/-- An address in brackets. -/
def bracketed (cs : List Char) : Except UrlError (List Char) :=
  if cs.getLast? = some ']' then
    match Ipv6.ofText? (cs.drop 1).dropLast with
    | some a => .ok ('[' :: a.text ++ [']'])
    | none => .error .invalidIpv6
  else .error .invalidIpv6

/-- The host of a scheme that takes it as it is. -/
def plainHost (cs : List Char) : Except UrlError (List Char) :=
  if cs.head? = some '[' then bracketed cs
  else if cs.any isForbidden then .error .invalidCharacter
  else .ok (encoded cs)

/-- With percent escapes undone. -/
def decodedBytes : List UInt8 → List UInt8
  | 37 :: a :: b :: rest =>
    match Ipv6.hexDigit? (.ofNat a.toNat), Ipv6.hexDigit? (.ofNat b.toNat) with
    | some x, some y => .ofNat (x * 16 + y) :: decodedBytes rest
    | _, _ => 37 :: decodedBytes (a :: b :: rest)
  | c :: rest => c :: decodedBytes rest
  | [] => []
termination_by bytes => bytes.length

/-- The text of a host whose escapes are undone. -/
def decoded? (cs : List Char) : Option (List Char) :=
  (String.fromUTF8? ⟨(decodedBytes (cs.flatMap String.utf8EncodeChar)).toArray⟩).map String.toList

/-- What the name of a domain may not hold. -/
def isForbiddenInName (c : Char) : Bool :=
  isForbidden c || c == '%' || c.toNat < 32 || c.toNat == 127

/-- The host of a special scheme: an address or the name of a domain. -/
def specialHost (cs : List Char) : Except UrlError (List Char) :=
  if cs.head? = some '[' then bracketed cs
  else match (decoded? cs).bind (Domain.name? isForbiddenInName) with
    | none => .error .invalidName
    | some [] => .error .emptyHost
    | some name =>
      if Ipv4.endsInNumber name ∧ Ipv4.ofName? name = none then .error .invalidIpv4 else .ok name

/-- A host up to the first colon outside brackets, and the rest. -/
def hostPart (inside : Bool) : List Char → List Char × List Char
  | [] => ([], [])
  | c :: rest =>
    if c = ':' ∧ !inside then ([], c :: rest)
    else
      let (host, after) := hostPart (if c = '[' then true else if c = ']' then false else inside) rest
      (c :: host, after)

/-! ### Ports -/

/-- Decimal digits up to the end of the host's part; no digits are no port. -/
def port? (cs : List Char) : Except UrlError (Option UInt16) :=
  let digits := cs.takeWhile Char.isDigit
  let rest := cs.dropWhile Char.isDigit
  if 65535 < Nat.ofDigitChars 10 digits 0 then .error .invalidPort
  else if rest.head?.any (· != '\\') then .error .invalidPort
  else .ok (if digits.isEmpty then none else some (.ofNat (Nat.ofDigitChars 10 digits 0)))

/-! ### URLs -/

/-- The user in front of the host, with the sign between them, and the rest. -/
def userAndHost (cs : List Char) : Option (List Char) × List Char :=
  match Text.cutLast? '@' cs with
  | some (user, host) => (some user, host)
  | none => (none, cs)

/-- What follows `//`. -/
def authority (kind : SchemeKind) (scheme : List Char) (cs : List Char) : Except UrlError Url := do
  let here := cs.takeWhile fun c => !isDelimiter kind c
  let more := cs.dropWhile fun c => !isDelimiter kind c
  let (user, rest) := userAndHost here
  -- A user of no letters is none, but it needs a host when a path follows.
  if user = some [] ∧ rest = [] ∧ more ≠ [] then throw .emptyHost
  let hasUser := user.any fun u => u ≠ [] && u ≠ [':']
  let (name, after) := hostPart false rest
  if name = [] ∧ (kind = .web ∨ after ≠ []) then throw .emptyHost
  let host ← if kind = .web then specialHost name else plainHost name
  let port ← match after with
    | _ :: digits => port? digits
    | [] => pure none
  if name = [] ∧ hasUser then throw .emptyHost
  return ⟨scheme, if name = [] then none else some host, port⟩

/-- What follows `file:`. A drive letter is no host. -/
def fileHost (scheme : List Char) (cs : List Char) : Except UrlError Url :=
  match cs with
  | a :: b :: rest =>
    if isDelimiter .file a ∧ a ≠ '?' ∧ a ≠ '#' ∧ isDelimiter .file b ∧ b ≠ '?' ∧ b ≠ '#' then
      let host := rest.takeWhile fun c => !isDelimiter .file c
      let isDrive : Bool := match host with
        | [letter, mark] => letter.isAlpha && (mark == ':' || mark == '|')
        | _ => false
      if host = [] ∨ isDrive then .ok ⟨scheme, none, none⟩
      else (specialHost host).map fun h => ⟨scheme, some h, none⟩
    else .ok ⟨scheme, none, none⟩
  | _ => .ok ⟨scheme, none, none⟩

/-- What follows the scheme. -/
def afterScheme (scheme : List Char) (cs : List Char) : Except UrlError Url :=
  match kindOf scheme with
  | .file => fileHost scheme cs
  | .web => authority .web scheme (cs.dropWhile fun c => c == '/' || c == '\\')
  | .plain => match cs with
    | '/' :: '/' :: rest => authority .plain scheme rest
    | _ => .ok ⟨scheme, none, none⟩

/-- Reads a URL. -/
def ofText (text : List Char) : Except UrlError Url :=
  let cs := cleaned text
  match cs.dropWhile isSchemeChar with
  | ':' :: rest =>
    if cs.head?.any Char.isAlpha then afterScheme (Text.lower (cs.takeWhile isSchemeChar)) rest
    else .error .relative
  | _ => .error .relative

end Url

end SwitchBench
