import SwitchBench.Text.Cut

/-! IPv6 addresses and their text.

An address is eight groups of 16 bits, written in hexadecimal and separated by
colons. One run of zero groups may be left out (`::`), and the last two groups may be
written as four decimal bytes (`::ffff:1.2.3.4`). The canonical text leaves out the
first of the longest runs of two or more zero groups and uses small letters. -/
namespace SwitchBench

structure Ipv6 where
  groups : List UInt16
  length_eq : groups.length = 8
deriving DecidableEq

namespace Ipv6

/-! ### Reading -/

def hexDigit? (c : Char) : Option Nat :=
  if c.isDigit then some (c.toNat - 48)
  else if 97 ≤ c.toNat ∧ c.toNat ≤ 102 then some (c.toNat - 87)
  else if 65 ≤ c.toNat ∧ c.toNat ≤ 70 then some (c.toNat - 55)
  else none

def hexNumber? (acc : Nat) : List Char → Option Nat
  | [] => some acc
  | c :: rest => (hexDigit? c).bind fun d => hexNumber? (acc * 16 + d) rest

/-- One to four hexadecimal digits. -/
def group? (cs : List Char) : Option UInt16 :=
  if cs ≠ [] ∧ cs.length ≤ 4 then (hexNumber? 0 cs).map UInt16.ofNat else none

/-- A decimal byte without leading zeros. -/
def byte? (cs : List Char) : Option Nat :=
  if cs ≠ [] ∧ cs.all Char.isDigit ∧ (cs.head? = some '0' → cs.length = 1) ∧
      Nat.ofDigitChars 10 cs 0 ≤ 255 then
    some (Nat.ofDigitChars 10 cs 0)
  else none

/-- Two groups as four decimal bytes. -/
def dotted? (cs : List Char) : Option (List UInt16) := do
  let [a, b, c, d] := cs.splitOn '.' | none
  return [.ofNat ((← byte? a) * 256 + (← byte? b)), .ofNat ((← byte? c) * 256 + (← byte? d))]

/-- Groups that were separated by colons; `dotted` allows bytes for the last two. -/
def groups? (dotted : Bool) : List (List Char) → Option (List UInt16)
  | [] => some []
  | [g] => if dotted && g.contains '.' then dotted? g else (group? g).map fun x => [x]
  | g :: rest => do return (← group? g) :: (← groups? dotted rest)

/-- Groups separated by colons, or nothing. -/
def side? (dotted : Bool) (cs : List Char) : Option (List UInt16) :=
  if cs.isEmpty then some [] else groups? dotted (cs.splitOn ':')

/-- The text before the first `::` and the text after it. -/
def cutDouble? : List Char → Option (List Char × List Char)
  | ':' :: ':' :: rest => some ([], rest)
  | c :: rest => (cutDouble? rest).map fun p => (c :: p.1, p.2)
  | [] => none

/-- The address of eight groups. -/
def ofGroups? (gs : List UInt16) : Option Ipv6 :=
  if h : gs.length = 8 then some ⟨gs, h⟩ else none

def ofText? (cs : List Char) : Option Ipv6 :=
  match cutDouble? cs with
  | none => (groups? true (cs.splitOn ':')).bind ofGroups?
  | some (before, after) => do
    let l ← side? false before
    let r ← side? true after
    if l.length + r.length ≤ 7 then
      ofGroups? (l ++ List.replicate (8 - l.length - r.length) 0 ++ r)
    else none

/-! ### Writing -/

def groupText (g : UInt16) : List Char := Nat.toDigits 16 g.toNat

def sideText (gs : List UInt16) : List Char := List.intercalate [':'] (gs.map groupText)

/-- The number of zero groups at the head. -/
def zeros (gs : List UInt16) : Nat := (gs.takeWhile (· = 0)).length

/-- The place and the length of the first of the longest runs of zero groups. -/
def longestRun (gs : List UInt16) : Nat × Nat :=
  (List.range gs.length).foldl (fun best i =>
    if best.2 < zeros (gs.drop i) then (i, zeros (gs.drop i)) else best) (0, 0)

def text (a : Ipv6) : List Char :=
  let (start, length) := longestRun a.groups
  if 2 ≤ length then
    sideText (a.groups.take start) ++ [':', ':'] ++ sideText (a.groups.drop (start + length))
  else sideText a.groups

end Ipv6

end SwitchBench
