/-! Unsigned decimal numerals.

A numeral is one or more ASCII digits, with at most one plus sign in front. It is
read against a bound: a value above the bound is no value at all, and leading
zeros count for nothing. -/
namespace SwitchBench.Text

/-- Without one plus sign in front. -/
def dropPlus : List Char → List Char
  | '+' :: ds => ds
  | ds => ds

/-- The value of a numeral that does not exceed `bound`. -/
def numeral? (bound : Nat) (cs : List Char) : Option Nat :=
  let ds := dropPlus cs
  if ds ≠ [] ∧ ds.all Char.isDigit ∧ Nat.ofDigitChars 10 ds 0 ≤ bound then
    some (Nat.ofDigitChars 10 ds 0)
  else none

/-- A numeral that fits a byte. -/
def byte? (cs : List Char) : Option UInt8 :=
  (numeral? 255 cs).map UInt8.ofNat

/-- A numeral that fits 32 bits. -/
def word32? (cs : List Char) : Option UInt32 :=
  (numeral? 4294967295 cs).map UInt32.ofNat

/-- A numeral that fits 64 bits. -/
def word64? (cs : List Char) : Option UInt64 :=
  (numeral? 18446744073709551615 cs).map UInt64.ofNat

/-- The shortest numeral of a number. -/
def decimal (n : Nat) : List Char := Nat.toDigits 10 n

/-- Reading undoes writing. -/
theorem numeral?_decimal {bound n : Nat} (h : n ≤ bound) : numeral? bound (decimal n) = some n := by
  have hdigit : ∀ c ∈ decimal n, c.isDigit = true := fun _ hc =>
    Nat.isDigit_of_mem_toDigits (b := 10) (n := n) (by decide) (by decide) hc
  have hne : decimal n ≠ [] := Nat.toDigits_ne_nil
  have hplus : dropPlus (decimal n) = decimal n := by
    unfold dropPlus
    split
    · rename_i ds heq
      have : '+' ∈ decimal n := by rw [heq]; exact List.mem_cons_self ..
      exact absurd (hdigit _ this) (by decide)
    · rfl
  have hval : Nat.ofDigitChars 10 (decimal n) 0 = n := Nat.ofDigitChars_ten_toDigits
  simp only [numeral?, hplus, hval]
  rw [if_pos ⟨hne, by simpa using hdigit, h⟩]

end SwitchBench.Text
