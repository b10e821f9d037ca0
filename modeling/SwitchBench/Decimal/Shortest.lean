import SwitchBench.Decimal.Binary64

/-! The shortest decimal that reads back as a binary number.

Every real in an interval around a binary number rounds to it; the ends belong to
the interval when the significand is even. For 1, 2, … 17 digits the two decimals
of that many digits next to the number are tested in exact arithmetic. The first
number of digits with a hit wins, and of two hits the nearer one. -/
namespace SwitchBench.Decimal

/-- A positive decimal, `digits * 10 ^ exponent`. -/
structure Scaled where
  digits : Nat
  exponent : Int
deriving DecidableEq

/-- A positive number with its rounding interval, as numerators over one
denominator. -/
structure Interval where
  value : Nat
  below : Nat
  above : Nat
  den : Nat
  closed : Bool

/-- The reals that round to a positive binary number. Numerators and denominator
are scaled by 4 so that the ends are whole. -/
def interval (x : Binary64) : Interval :=
  let unit := Nat.pow 2 x.exponent.toNat
  let m := x.significand * unit
  { value := 4 * m
    below := 4 * m - (if x.isNarrow then unit else 2 * unit)
    above := 4 * m + 2 * unit
    den := 4 * Nat.pow 2 (-x.exponent).toNat
    closed := x.significand % 2 == 0 }

namespace Interval

/-- `d * 10 ^ k` as a numerator, and the factor by which the others grow. -/
def scale (i : Interval) (d : Nat) (k : Int) : Nat × Nat :=
  (d * Nat.pow 10 k.toNat * i.den, Nat.pow 10 (-k).toNat)

def contains (i : Interval) (d : Nat) (k : Int) : Bool :=
  let (x, f) := i.scale d k
  if i.closed then i.below * f ≤ x && x ≤ i.above * f else i.below * f < x && x < i.above * f

/-- The distance from the value to `d * 10 ^ k`, over a denominator that depends
on `k` alone. -/
def distance (i : Interval) (d : Nat) (k : Int) : Nat :=
  let (x, f) := i.scale d k
  (x - i.value * f) + (i.value * f - x)

/-- The exponent of the leading digit of the value. -/
def magnitude (i : Interval) : Int :=
  let guess : Int := (Nat.toDigits 10 i.value).length - (Nat.toDigits 10 i.den).length
  let (x, f) := i.scale 1 guess
  if x ≤ i.value * f then guess else guess - 1

/-- The decimals next to the value whose last digit counts `10 ^ k`, cut down to
those that round to it. -/
def near? (i : Interval) (k : Int) : Option Nat :=
  let low := i.value * Nat.pow 10 (-k).toNat / (i.den * Nat.pow 10 k.toNat)
  match i.contains low k, i.contains (low + 1) k with
  | false, false => none
  | true, false => some low
  | false, true => some (low + 1)
  | true, true =>
    let a := i.distance low k
    let b := i.distance (low + 1) k
    if a < b then some low
    else if b < a then some (low + 1)
    else some (if low % 2 = 0 then low else low + 1)

end Interval

/-- Without trailing zeros. -/
def Scaled.trimmed : Nat → Scaled → Scaled
  | 0, s => s
  | fuel + 1, s =>
    if s.digits % 10 = 0 then Scaled.trimmed fuel ⟨s.digits / 10, s.exponent + 1⟩ else s

/-- The shortest decimal that rounds to a finite binary number other than zero. -/
def shortest (x : Binary64) : Scaled :=
  let i := interval x
  let top := i.magnitude
  let hit := (List.range 17).findSome? fun (n : Nat) =>
    (i.near? (top - n)).map fun d => Scaled.mk d (top - n)
  (hit.getD ⟨i.value, 0⟩).trimmed 17

end SwitchBench.Decimal
