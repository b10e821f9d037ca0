import SwitchBench.Decimal.Shortest
import SwitchBench.Json.Value
import SwitchBench.Text.Numeral

/-! Writing JSON without white space.

In a string, quotes, backslashes and control characters below U+0020 are escaped,
the common ones by letter; everything else stands for itself. A floating-point
number is written with the fewest digits that read back: positional from 1e-5 to
below 1e16, always with a point, and with an exponent that carries its sign
elsewhere. -/
namespace SwitchBench.Json

open Text (decimal)

def hexDigit (n : Nat) : Char := Nat.digitChar (n % 16)

/-- A character inside a string. -/
def escaped (c : Char) : List Char :=
  if c = '"' then ['\\', '"']
  else if c = '\\' then ['\\', '\\']
  else if c = '\n' then ['\\', 'n']
  else if c = '\r' then ['\\', 'r']
  else if c = '\t' then ['\\', 't']
  else if c = '\x08' then ['\\', 'b']
  else if c = '\x0c' then ['\\', 'f']
  else if c.toNat < 0x20 then ['\\', 'u', '0', '0', hexDigit (c.toNat / 16), hexDigit c.toNat]
  else [c]

def quoted (s : String) : List Char := '"' :: s.toList.flatMap escaped ++ ['"']

def wholeText (n : Int) : List Char :=
  match n with
  | .ofNat n => decimal n
  | .negSucc n => '-' :: decimal (n + 1)

/-- A positive decimal, by the place of its leading digit. -/
def scaledText (s : Decimal.Scaled) : List Char :=
  let ds := decimal s.digits
  -- The point stands after this many digits.
  let point : Int := ds.length + s.exponent
  if 0 ≤ s.exponent ∧ point ≤ 16 then ds ++ List.replicate s.exponent.toNat '0' ++ ['.', '0']
  else if 0 < point ∧ point ≤ 16 then ds.take point.toNat ++ '.' :: ds.drop point.toNat
  else if -5 < point ∧ point ≤ 0 then ['0', '.'] ++ List.replicate (-point).toNat '0' ++ ds
  else
    let mantissa := match ds with
      | d :: e :: rest => d :: '.' :: e :: rest
      | _ => ds
    let power := point - 1
    mantissa ++ 'e' :: (if power < 0 then '-' else '+') :: decimal power.natAbs

def realText (x : Binary64) : List Char :=
  let sign := if x.isNegative then ['-'] else []
  sign ++ if x.significand = 0 then ['0', '.', '0'] else scaledText (Decimal.shortest x)

def numberText : JsonNumber → List Char
  | .whole n => wholeText n
  | .real x => realText x

mutual
def write : Json → List Char
  | .null => ['n', 'u', 'l', 'l']
  | .bool true => ['t', 'r', 'u', 'e']
  | .bool false => ['f', 'a', 'l', 's', 'e']
  | .number n => numberText n
  | .string s => quoted s
  | .array items => '[' :: writeItems items
  | .object members => '\x7b' :: writeMembers members

/-- The rest of an array. -/
def writeItems : List Json → List Char
  | [] => [']']
  | [v] => write v ++ [']']
  | v :: w :: rest => write v ++ ',' :: writeItems (w :: rest)

/-- The rest of an object. -/
def writeMembers : List (String × Json) → List Char
  | [] => ['\x7d']
  | [(name, v)] => quoted name ++ ':' :: (write v ++ ['\x7d'])
  | (name, v) :: m :: rest => quoted name ++ ':' :: (write v ++ ',' :: writeMembers (m :: rest))
end

/-- The text of a value. -/
def text (v : Json) : String := String.ofList v.write

end SwitchBench.Json
