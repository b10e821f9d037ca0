import SwitchBench.Json.Value

/-! Strings and numbers of JSON, byte by byte.

A scan takes one byte at a time and says what the byte did (`Fed`). Strings end at
their closing quote; a number ends only at a byte that cannot belong to it, so its
end is seen one byte late (`Fed.past`).

A value that is only stepped over is checked for its shape alone: its strings may
hold any bytes and unpaired surrogates, its numbers may be out of range. -/
namespace SwitchBench.Json

/-- What one byte does to a reader in state `σ` that is to yield an `α`. -/
inductive Fed (σ α : Type) where
  /-- The reader goes on. -/
  | more (s : σ)
  /-- The byte is the last one of what was read. -/
  | done (a : α)
  /-- What was read had ended before this byte. -/
  | past (a : α)
  /-- No continuation is well-formed. -/
  | bad

/-- Whether a value is wanted, with `room` for so many levels of nesting, or only
stepped over. -/
inductive Mode where
  | keep (room : Nat)
  | skip
deriving DecidableEq

namespace Mode

def keeps : Mode → Bool
  | keep _ => true
  | skip => false

/-- Whether one more array or object may be opened inside those that are open. -/
def admits {α : Type} : Mode → List α → Bool
  | keep room, opened => opened.length < room
  | skip, _ => true

end Mode

def isSpace (b : UInt8) : Bool := b == 0x20 || b == 0x0A || b == 0x0D || b == 0x09

def isDigit (b : UInt8) : Bool := 0x30 ≤ b && b ≤ 0x39

def hexValue? (b : UInt8) : Option Nat :=
  if isDigit b then some (b.toNat - 0x30)
  else if 0x61 ≤ b && b ≤ 0x66 then some (b.toNat - 0x61 + 10)
  else if 0x41 ≤ b && b ≤ 0x46 then some (b.toNat - 0x41 + 10)
  else none

/-- The number of four hexadecimal digits, latest first. -/
def hexNumber? : List UInt8 → Option Nat
  | [] => some 0
  | b :: bs => (hexNumber? bs).bind fun high => (hexValue? b).map fun low => high * 16 + low

/-! ### Strings -/

/-- Where a reader stands inside a string. The bytes of a hexadecimal escape are
collected, latest first, and looked at only when all four are there. -/
inductive Place where
  | plain
  | escape
  | hex (seen : List UInt8)
  /-- After the escape of a leading surrogate, which needs a second escape. -/
  | lead (high : Nat)
  | leadEscape (high : Nat)
  | leadHex (high : Nat) (seen : List UInt8)

/-- A string after its opening quote, with its bytes so far, latest first. -/
structure TextScan where
  place : Place
  bytes : List UInt8

namespace TextScan

def start : TextScan := ⟨.plain, []⟩

/-- With the bytes of one more code point. -/
def push (s : TextScan) (codePoint : Nat) : TextScan :=
  ⟨.plain, (String.utf8EncodeChar (Char.ofNat codePoint)).reverse ++ s.bytes⟩

/-- The text of a string at its closing quote, if its bytes are UTF-8. -/
def text? (s : TextScan) : Option String :=
  String.fromUTF8? ⟨s.bytes.reverse.toArray⟩

/-- The character of a one-letter escape. -/
def letter? (b : UInt8) : Option UInt8 :=
  if b == 0x22 || b == 0x5C || b == 0x2F then some b
  else if b == 0x62 then some 0x08
  else if b == 0x66 then some 0x0C
  else if b == 0x6E then some 0x0A
  else if b == 0x72 then some 0x0D
  else if b == 0x74 then some 0x09
  else none

/-- After all four digits of an escape. A surrogate must be a leading one. -/
def unit (mode : Mode) (s : TextScan) (n : Nat) : Fed TextScan String :=
  if !mode.keeps then .more { s with place := .plain }
  else if 0xDC00 ≤ n && n ≤ 0xDFFF then .bad
  else if 0xD800 ≤ n && n ≤ 0xDBFF then .more { s with place := .lead n }
  else .more (s.push n)

def feed (mode : Mode) (s : TextScan) (b : UInt8) : Fed TextScan String :=
  match s.place with
  | .plain =>
    if b == 0x22 then
      if mode.keeps then match s.text? with
        | some t => .done t
        | none => .bad
      else .done ""
    else if b == 0x5C then .more { s with place := .escape }
    else if b < 0x20 then .bad
    else .more (if mode.keeps then ⟨.plain, b :: s.bytes⟩ else s)
  | .escape =>
    if b == 0x75 then .more { s with place := .hex [] }
    else match letter? b with
      | some c => .more ⟨.plain, c :: s.bytes⟩
      | none => .bad
  | .hex seen =>
    if seen.length < 3 then .more { s with place := .hex (b :: seen) }
    else match hexNumber? (b :: seen) with
      | some n => s.unit mode n
      | none => .bad
  | .lead high => if b == 0x5C then .more { s with place := .leadEscape high } else .bad
  | .leadEscape high => if b == 0x75 then .more { s with place := .leadHex high [] } else .bad
  | .leadHex high seen =>
    if seen.length < 3 then .more { s with place := .leadHex high (b :: seen) }
    else match hexNumber? (b :: seen) with
      | some low =>
        if 0xDC00 ≤ low && low ≤ 0xDFFF then
          .more (s.push ((high - 0xD800) * 0x400 + (low - 0xDC00) + 0x10000))
        else .bad
      | none => .bad

end TextScan

/-! ### Numbers -/

/-- A number as written; digits are in order and the exponent is absent when none
was written. -/
structure Numeral where
  negative : Bool
  whole : List Nat
  fraction : List Nat
  exponent : Option (Bool × List Nat)
deriving DecidableEq

namespace Numeral

/-- Digits taken onto a number as long as it stays below `2 ^ 64`, and how many
were left over. -/
def accumulate (acc : Nat) : List Nat → Nat × Nat
  | [] => (acc, 0)
  | d :: ds =>
    if acc * 10 + d < 18446744073709551616 then accumulate (acc * 10 + d) ds else (acc, ds.length + 1)

/-- The exponent of a power of ten, unless it is past 31 bits. -/
def power? (ds : List Nat) : Option Nat :=
  ds.foldl (fun acc d => acc.bind fun n => if n * 10 + d < 2147483648 then some (n * 10 + d) else none)
    (some 0)

/-- `x * 10 ^ k` for an `x` below `2 ^ 64`, by one multiplication or by divisions
by powers of ten in range: nothing when it is too large for a binary number. -/
def scale? (x : Float) (k : Int) : Option Float :=
  let power (n : Nat) : Float := Float.ofScientific 1 false n
  if 308 < k then if x == 0 then some x else none
  else if 0 ≤ k then
    let y := x * power k.toNat
    if y.isInf then none else some y
  else if -308 ≤ k then some (x / power k.natAbs)
  else if -616 ≤ k then some (x / power 308 / power (k.natAbs - 308))
  else some 0

/-- The value with a fraction, an exponent or too many digits for 64 bits. Digits
past the 64 bits count for their place only. -/
def real? (n : Numeral) : Option Binary64 :=
  let (m, dropped) := accumulate 0 n.whole
  let (m, cut) := accumulate m n.fraction
  let places : Int := (dropped : Int) - ((n.fraction.length : Int) - cut)
  let size : Option Float := match n.exponent with
    | none => scale? (UInt64.ofNat m).toFloat places
    | some (down, ds) =>
      match power? ds with
      | some e => scale? (UInt64.ofNat m).toFloat (if down then places - e else places + e)
      | none => if m ≠ 0 ∧ down = false then none else some 0
  size.map fun x => .ofFloat (if n.negative then -x else x)

/-- The value, unless it is out of range. Minus zero is not whole. -/
def value? (n : Numeral) : Option JsonNumber :=
  match n.fraction, n.exponent, accumulate 0 n.whole with
  | [], none, (m, 0) =>
    if !n.negative then some (.whole m)
    else if m ≠ 0 ∧ m ≤ 9223372036854775808 then some (.whole (-m))
    else n.real?.map .real
  | _, _, _ => n.real?.map .real

end Numeral

/-- Where a reader stands inside a number. -/
inductive Column where
  /-- After a minus sign. -/
  | sign
  /-- After a leading zero, which no digit follows. -/
  | zero
  | whole
  | point
  | fraction
  /-- After the letter of an exponent. -/
  | mark
  | markSign
  | exponent
deriving DecidableEq

/-- A number so far, with its digits latest first. -/
structure NumberScan where
  column : Column
  negative : Bool
  whole : List Nat
  fraction : List Nat
  down : Bool
  exponent : List Nat

namespace NumberScan

def ofSign : NumberScan := ⟨.sign, true, [], [], false, []⟩

def ofDigit (b : UInt8) : NumberScan :=
  ⟨if b == 0x30 then .zero else .whole, false, [b.toNat - 0x30], [], false, []⟩

/-- The number, if it can end here. -/
def numeral? (s : NumberScan) : Option Numeral :=
  let n : Numeral := ⟨s.negative, s.whole.reverse, s.fraction.reverse, none⟩
  match s.column with
  | .zero | .whole | .fraction => some n
  | .exponent => some { n with exponent := some (s.down, s.exponent.reverse) }
  | .sign | .point | .mark | .markSign => none

/-- A byte that is no part of the number ends it, where it can end. -/
def close (s : NumberScan) : Fed NumberScan Numeral :=
  match s.numeral? with
  | some n => .past n
  | none => .bad

def feed (s : NumberScan) (b : UInt8) : Fed NumberScan Numeral :=
  let d := b.toNat - 0x30
  let marks := b == 0x65 || b == 0x45
  match s.column with
  | .sign =>
    if isDigit b then .more { s with column := if b == 0x30 then .zero else .whole, whole := [d] } else .bad
  | .zero =>
    if isDigit b then .bad
    else if b == 0x2E then .more { s with column := .point }
    else if marks then .more { s with column := .mark }
    else s.close
  | .whole =>
    if isDigit b then .more { s with whole := d :: s.whole }
    else if b == 0x2E then .more { s with column := .point }
    else if marks then .more { s with column := .mark }
    else s.close
  | .point => if isDigit b then .more { s with column := .fraction, fraction := [d] } else .bad
  | .fraction =>
    if isDigit b then .more { s with fraction := d :: s.fraction }
    else if marks then .more { s with column := .mark }
    else s.close
  | .mark =>
    if b == 0x2B then .more { s with column := .markSign }
    else if b == 0x2D then .more { s with column := .markSign, down := true }
    else if isDigit b then .more { s with column := .exponent, exponent := [d] }
    else .bad
  | .markSign => if isDigit b then .more { s with column := .exponent, exponent := [d] } else .bad
  | .exponent => if isDigit b then .more { s with exponent := d :: s.exponent } else s.close

end NumberScan

end SwitchBench.Json
