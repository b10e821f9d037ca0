import SwitchBench.Decimal.Written
import SwitchBench.Settings.Datum
import SwitchBench.Text.Escape

/-! Values in a TOML document that stand without quotes: truth values, numbers and
points in time. Of these only whole numbers matter to settings; the others are read to
refuse what is none of them. A fraction too large for a binary number of 64 bits is
refused too. -/
namespace SwitchBench.Toml
open Decimal (Written)
open Decimal.Written (unsigned)

/-- The digits of a number, with single underscores between digits left out. -/
def digits? (isDigit : Char → Bool) : List Char → Option (List Char)
  | [] => none
  | [c] => if isDigit c then some [c] else none
  | c :: '_' :: rest => if isDigit c then (digits? isDigit rest).map (c :: ·) else none
  | c :: rest => if isDigit c then (digits? isDigit rest).map (c :: ·) else none

def isHexDigit (c : Char) : Bool := (Text.hexDigit? c).isSome

/-- The value of digits. -/
def valueOf (base : Nat) (ds : List Char) : Nat :=
  ds.foldl (fun n c => n * base + (Text.hexDigit? c).getD 0) 0

/-- Decimal digits without a zero too many in front. -/
def decimals? (cs : List Char) : Option (List Char) :=
  (digits? Char.isDigit cs).bind fun ds =>
    match ds with
    | '0' :: _ :: _ => none
    | ds => some ds

/-- A whole number as it is written. -/
def whole? (cs : List Char) : Option Int :=
  match cs with
  | '0' :: 'x' :: ds => (digits? isHexDigit ds).map (valueOf 16 ·)
  | '0' :: 'o' :: ds => (digits? (fun c => '0' ≤ c && c ≤ '7') ds).map (valueOf 8 ·)
  | '0' :: 'b' :: ds => (digits? (fun c => c == '0' || c == '1') ds).map (valueOf 2 ·)
  | cs =>
    let (negative, ds) := unsigned cs
    (decimals? ds).map fun ds => if negative then -valueOf 10 ds else valueOf 10 ds

/-- A fraction, a power of ten or one of the names `inf` and `nan`. -/
def real? (cs : List Char) : Option Written :=
  let isExponent (c : Char) : Bool := c == 'e' || c == 'E'
  let body := (unsigned cs).2
  let mantissa := body.takeWhile (!isExponent ·)
  if body == "inf".toList || body == "nan".toList then some .nonFinite
  else do
    let whole ← decimals? (mantissa.takeWhile (· != '.'))
    let fraction ← match mantissa.dropWhile (· != '.') with
      | [] => some []
      | _ :: fraction => digits? Char.isDigit fraction
    let power : Int ← match body.dropWhile (!isExponent ·) with
      | [] => some 0
      | _ :: text =>
        let (negative, ds) := unsigned text
        (digits? Char.isDigit ds).map fun ds => if negative then -valueOf 10 ds else valueOf 10 ds
    return .decimal (whole ++ fraction) (power - fraction.length)

/-! ### Points in time -/

/-- Two digits up to a bound. -/
def two? (least most : Nat) : List Char → Option (Nat × List Char)
  | a :: b :: rest =>
    let n := valueOf 10 [a, b]
    if a.isDigit && b.isDigit && least ≤ n && n ≤ most then some (n, rest) else none
  | _ => none

def daysIn (year month : Nat) : Nat :=
  if month = 2 then if year % 4 = 0 ∧ (year % 100 ≠ 0 ∨ year % 400 = 0) then 29 else 28
  else if month = 4 ∨ month = 6 ∨ month = 9 ∨ month = 11 then 30
  else 31

/-- What follows a date. -/
def afterDate? (cs : List Char) : Option (List Char) := do
  let (century, rest) ← two? 0 99 cs
  let (yearOfCentury, rest) ← two? 0 99 rest
  let '-' :: rest := rest | none
  let (month, rest) ← two? 1 12 rest
  let '-' :: rest := rest | none
  let (_, rest) ← two? 1 (daysIn (century * 100 + yearOfCentury) month) rest
  return rest

/-- What follows a time of day. A second may be a leap second. -/
def afterTime? (cs : List Char) : Option (List Char) := do
  let (_, rest) ← two? 0 23 cs
  let ':' :: rest := rest | none
  let (_, rest) ← two? 0 59 rest
  let ':' :: rest := rest | none
  let (_, rest) ← two? 0 60 rest
  match rest with
  | '.' :: rest => if rest.takeWhile Char.isDigit = [] then none else return rest.dropWhile Char.isDigit
  | rest => return rest

/-- Whether a text is nothing or the distance of a place from the zero meridian. -/
def isOffset (cs : List Char) : Bool :=
  match cs with
  | [] | ['Z'] | ['z'] => true
  | sign :: rest => (sign == '+' || sign == '-') && match two? 0 23 rest with
    | some (_, ':' :: rest) => (two? 0 59 rest).map Prod.snd == some []
    | _ => false

/-- Whether a text is a date, a time of day, or a date with a time of day. -/
def isMoment (cs : List Char) : Bool :=
  match afterDate? cs with
  | some [] => true
  | some (c :: rest) =>
    (c == 'T' || c == 't' || c == ' ') && ((afterTime? rest).map isOffset).getD false
  | none => afterTime? cs == some []

/-! ### All of them -/

def isBareValue (c : Char) : Bool :=
  c.isAlphanum || c == '_' || c == '-' || c == '+' || c == '.' || c == ':'

/-- What a value without quotes says. Whole numbers have 64 bits. -/
def bareDatum? (cs : List Char) : Option Datum :=
  if cs == "true".toList || cs == "false".toList then some .other
  else match whole? cs with
    | some n => if -9223372036854775808 ≤ n ∧ n < 9223372036854775808 then some (.whole n) else none
    | none => match real? cs with
      | some .nonFinite => some .null
      | some x => if x.isFinite then some .other else none
      | none => if isMoment cs then some .other else none

/-- A value without quotes, and what follows it. One space may stand between a date and
a time of day. -/
def bare? (cs : List Char) : Option (Datum × List Char) :=
  let word := cs.takeWhile isBareValue
  let rest := cs.dropWhile isBareValue
  match afterDate? word, rest with
  | some [], ' ' :: c :: more =>
    if c.isDigit then
      (bareDatum? (word ++ ' ' :: (c :: more).takeWhile isBareValue)).map
        (·, (c :: more).dropWhile isBareValue)
    else some (.other, rest)
  | _, rest => (bareDatum? word).map (·, rest)

end SwitchBench.Toml
