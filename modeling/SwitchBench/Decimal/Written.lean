import SwitchBench.Text.Case

/-! Numbers with a fraction, as they are written.

A number is written as digits with at most one point among them and perhaps a power of
ten behind an `e`, or as one of the names of what is not finite. A decimal may be so
large that no finite binary number of 64 bits is near it; it then comes to infinity. -/
namespace SwitchBench.Decimal

/-- The least number that rounds to no finite binary number: half a unit above the
largest of them. -/
def overflowBound : Nat := Nat.pow 2 1024 - Nat.pow 2 970

/-- Whether `digits * 10 ^ exponent` rounds to no finite binary number. Unless the number
has exactly as many digits as the bound, their count decides. -/
def overflows (digits : List Char) (exponent : Int) : Bool :=
  let significant := digits.dropWhile (· == '0')
  let places := significant.length + exponent
  let value := Nat.ofDigitChars 10 significant 0
  if significant = [] ∨ places < 309 then false
  else if 309 < places then true
  else overflowBound * Nat.pow 10 (-exponent).toNat ≤ value * Nat.pow 10 exponent.toNat

/-- A number without its sign. -/
inductive Written where
  /-- `digits * 10 ^ exponent`. -/
  | decimal (digits : List Char) (exponent : Int)
  /-- Infinity, or what is no number at all. -/
  | nonFinite
deriving DecidableEq

namespace Written

def isFinite : Written → Bool
  | decimal digits exponent => !overflows digits exponent
  | nonFinite => false

/-- Without one sign in front, beside whether that was a minus. -/
def unsigned : List Char → Bool × List Char
  | '-' :: rest => (true, rest)
  | '+' :: rest => (false, rest)
  | rest => (false, rest)

/-- A whole number with a sign or none. -/
def power? (cs : List Char) : Option Int :=
  let (negative, ds) := unsigned cs
  if ds ≠ [] ∧ ds.all Char.isDigit then
    let n : Int := Nat.ofDigitChars 10 ds 0
    some (if negative then -n else n)
  else none

def names : List String := ["inf", "infinity", "nan"]

/-- Reads a number. Digits may be missing on one side of the point. -/
def ofText? (cs : List Char) : Option Written :=
  let body := (unsigned cs).2
  if names.any fun n => n.toList == Text.lower body then some .nonFinite
  else
    let whole := body.takeWhile Char.isDigit
    let (fraction, rest) := match body.dropWhile Char.isDigit with
      | '.' :: rest => (rest.takeWhile Char.isDigit, rest.dropWhile Char.isDigit)
      | rest => ([], rest)
    if whole ++ fraction = [] then none
    else match rest with
      | [] => some (.decimal (whole ++ fraction) (-fraction.length))
      | mark :: power =>
        if mark = 'e' ∨ mark = 'E' then
          (power? power).map fun p => .decimal (whole ++ fraction) (p - fraction.length)
        else none

end Written

end SwitchBench.Decimal
