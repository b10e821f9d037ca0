import SwitchBench.Proofs.Text.Words
import SwitchBench.Text.Case
import SwitchBench.Text.Numeral

/-! The characters of a numeral.

A written numeral consists of digits: it holds no blank, is not changed by letter
case, and is read back. -/
namespace SwitchBench.Text

theorem isDigit_of_mem_decimal {n : Nat} {c : Char} (h : c ∈ decimal n) : c.isDigit = true :=
  Nat.isDigit_of_mem_toDigits (b := 10) (n := n) (by decide) (by decide) h

theorem decimal_ne_nil (n : Nat) : decimal n ≠ [] := Nat.toDigits_ne_nil

theorem toNat_of_isDigit {c : Char} (h : c.isDigit = true) : 48 ≤ c.toNat ∧ c.toNat ≤ 57 := by
  simpa [Char.isDigit, UInt32.le_iff_toNat_le] using h

theorem decimal_solid (n : Nat) : Solid (decimal n) := by
  intro c hc
  obtain ⟨hlow, hhigh⟩ := toNat_of_isDigit (isDigit_of_mem_decimal hc)
  have hascii : c.toNat < 128 := by omega
  have h13 : ¬ c.toNat ≤ 13 := by omega
  have h32 : (c.toNat == 32) = false := by simp; omega
  simp [isBlank, hascii, h13, h32]

theorem not_mem_decimal {c : Char} (h : c.isDigit = false) (n : Nat) : c ∉ decimal n := by
  intro hc
  rw [isDigit_of_mem_decimal hc] at h
  exact Bool.noConfusion h

theorem toLower_of_isDigit {c : Char} (h : c.isDigit = true) : c.toLower = c := by
  obtain ⟨-, hhigh⟩ := toNat_of_isDigit h
  have hval : ¬ (c.val ≥ 'A'.val ∧ c.val ≤ 'Z'.val) := by
    rintro ⟨h, -⟩
    have : 65 ≤ c.toNat := UInt32.le_iff_toNat_le.mp h
    omega
  exact dif_neg hval

theorem lower_decimal (n : Nat) : lower (decimal n) = decimal n :=
  (List.map_congr_left fun _ hc => toLower_of_isDigit (isDigit_of_mem_decimal hc)).trans
    (List.map_id _)

/-! ### Reading back -/

theorem byte?_decimal (n : UInt8) : byte? (decimal n.toNat) = some n := by
  have h : n.toNat ≤ 255 := Nat.le_of_lt_succ n.toNat_lt
  simp [byte?, numeral?_decimal h]

theorem word32?_decimal (n : UInt32) : word32? (decimal n.toNat) = some n := by
  have h : n.toNat ≤ 4294967295 := Nat.le_of_lt_succ n.toNat_lt
  simp [word32?, numeral?_decimal h]

theorem word64?_decimal (n : UInt64) : word64? (decimal n.toNat) = some n := by
  have h : n.toNat ≤ 18446744073709551615 := Nat.le_of_lt_succ n.toNat_lt
  simp [word64?, numeral?_decimal h]

end SwitchBench.Text
