/-! Binary floating-point numbers of 64 bits, by their bits.

A finite number is `significand * 2 ^ exponent`, negated when the top bit is set.
Keeping the bits, and not the machine's float, makes equality of numbers decidable
and keeps the two zeros apart. -/
namespace SwitchBench

structure Binary64 where
  bits : UInt64
deriving DecidableEq

namespace Binary64

def ofFloat (x : Float) : Binary64 := ⟨x.toBits⟩

def isNegative (x : Binary64) : Bool := 9223372036854775808 ≤ x.bits.toNat

/-- The 11 bits of the exponent field. -/
def field (x : Binary64) : Nat := x.bits.toNat / 4503599627370496 % 2048

/-- The 52 bits of the fraction field. -/
def fraction (x : Binary64) : Nat := x.bits.toNat % 4503599627370496

def significand (x : Binary64) : Nat := if x.field = 0 then x.fraction else 4503599627370496 + x.fraction

def exponent (x : Binary64) : Int := if x.field = 0 then -1074 else (x.field : Int) - 1075

/-- Whether the number below is only half as far away as the number above. -/
def isNarrow (x : Binary64) : Bool := x.fraction = 0 && 1 < x.field

end Binary64

end SwitchBench
