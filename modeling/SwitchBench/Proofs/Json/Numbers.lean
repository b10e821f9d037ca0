import SwitchBench.Proofs.Json.Strings
import SwitchBench.Proofs.Text.Numerals

/-! Reading back the whole numbers that are written.

A number shows its end only by the byte after it. A whole number is written in digits
without leading zeros, so any byte that is neither a digit nor a point nor the letter of
an exponent ends it, and its digits add up to it as long as it fits 64 bits. -/
namespace SwitchBench

open Text (decimal)

namespace Text

/-- Only zero is written with a leading zero. -/
theorem decimal_head {n : Nat} (h : n ≠ 0) : ∃ c cs, decimal n = c :: cs ∧ c ≠ '0' := by
  induction n using Nat.strongRecOn with
  | _ n ih =>
    by_cases hlt : n < 10
    · refine ⟨n.digitChar, [], Nat.toDigits_of_lt_base hlt, ?_⟩
      have hne : ∀ k < 10, k ≠ 0 → Nat.digitChar k ≠ '0' := by decide
      exact hne n hlt h
    · have hle : 10 ≤ n := by omega
      obtain ⟨c, cs, hcs, hc⟩ := ih (n / 10) (by omega) (by omega)
      refine ⟨c, cs ++ [(n % 10).digitChar], ?_, hc⟩
      show Nat.toDigits 10 n = _
      rw [Nat.toDigits_of_base_le (by decide) hle]
      show decimal (n / 10) ++ _ = _
      rw [hcs, List.cons_append]

end Text

namespace Json

/-- What a digit stands for. -/
def digitValue (c : Char) : Nat := c.toNat - 48

theorem byte_of_isDigit {c : Char} (h : c.isDigit = true) :
    ∃ b, String.utf8EncodeChar c = [b] ∧ isDigit b = true ∧ b.toNat - 0x30 = digitValue c ∧
      (b = 0x30 → c = '0') := by
  obtain ⟨hlow, hhigh⟩ := Text.toNat_of_isDigit h
  have hn : (UInt8.ofNat c.toNat).toNat = c.toNat :=
    UInt8.toNat_ofNat_of_lt' (Nat.lt_of_le_of_lt hhigh (by decide))
  refine ⟨UInt8.ofNat c.toNat, utf8EncodeChar_of_lt (by omega), ?_, by rw [hn]; rfl, fun he => ?_⟩
  · have hl : (0x30 : UInt8) ≤ UInt8.ofNat c.toNat := by
      rw [UInt8.le_iff_toNat_le, hn]
      exact hlow
    have hh : UInt8.ofNat c.toNat ≤ 0x39 := by
      rw [UInt8.le_iff_toNat_le, hn]
      exact hhigh
    simp [isDigit, hl, hh]
  · apply Char.toNat_inj.mp
    rw [← hn, he]
    rfl

/-! ### Values of digits -/

theorem le_ofDigitChars (cs : List Char) (n : Nat) : n ≤ Nat.ofDigitChars 10 cs n := by
  induction cs generalizing n with
  | nil => exact Nat.le_of_eq Nat.ofDigitChars_nil.symm
  | cons c cs ih =>
    rw [Nat.ofDigitChars_cons]
    have h := ih (10 * n + (c.toNat - '0'.toNat))
    omega

namespace Numeral

theorem accumulate_digits {cs : List Char} {n : Nat}
    (h : Nat.ofDigitChars 10 cs n < 18446744073709551616) :
    accumulate n (cs.map digitValue) = (Nat.ofDigitChars 10 cs n, 0) := by
  induction cs generalizing n with
  | nil => rw [Nat.ofDigitChars_nil]; rfl
  | cons c cs ih =>
    have hnext : 10 * n + (c.toNat - '0'.toNat) = n * 10 + digitValue c := by
      rw [Nat.mul_comm]
      rfl
    rw [Nat.ofDigitChars_cons, hnext] at h ⊢
    have hle := le_ofDigitChars cs (n * 10 + digitValue c)
    rw [List.map_cons, accumulate, if_pos (Nat.lt_of_le_of_lt hle h)]
    exact ih h

theorem accumulate_decimal {n : Nat} (h : n < 18446744073709551616) :
    accumulate 0 ((decimal n).map digitValue) = (n, 0) := by
  have hn : Nat.ofDigitChars 10 (decimal n) 0 = n := Nat.ofDigitChars_ten_toDigits
  rw [accumulate_digits (by rw [hn]; exact h), hn]

theorem value?_decimal {n : Nat} (h : n < 18446744073709551616) :
    value? ⟨false, (decimal n).map digitValue, [], none⟩ = some (.whole n) := by
  simp [value?, accumulate_decimal h]

theorem value?_minus {n : Nat} (h : n + 1 ≤ 9223372036854775808) :
    value? ⟨true, (decimal (n + 1)).map digitValue, [], none⟩ = some (.whole (.negSucc n)) := by
  have hlt : n + 1 < 18446744073709551616 := by omega
  simp [value?, accumulate_decimal hlt, h, Int.negSucc_eq]

end Numeral

/-! ### Scanning digits -/

namespace NumberScan

/-- A byte that does not go on with a whole number. -/
def ends (b : UInt8) : Bool := !(isDigit b || b == 0x2E || b == 0x65 || b == 0x45)

/-- A scan of nothing but digits, latest first. -/
def ofWhole (column : Column) (negative : Bool) (digits : List Nat) : NumberScan :=
  ⟨column, negative, digits, [], false, []⟩

/-- The column after a first digit. -/
def columnAfter (b : UInt8) : Column := if b == 0x30 then .zero else .whole

theorem run_whole {cs : List Char} (h : ∀ c ∈ cs, c.isDigit = true) (negative : Bool)
    (ds : List Nat) :
    run feed (ofWhole .whole negative ds) (utf8 cs) =
      .more (ofWhole .whole negative ((cs.map digitValue).reverse ++ ds)) := by
  induction cs generalizing ds with
  | nil => rfl
  | cons c cs ih =>
    obtain ⟨b, hb, hdigit, hval, -⟩ := byte_of_isDigit (h c (List.mem_cons_self ..))
    have hstep : feed (ofWhole .whole negative ds) b =
        .more (ofWhole .whole negative (digitValue c :: ds)) := by
      simp [feed, ofWhole, hdigit, hval]
    rw [utf8_cons, hb, List.singleton_append, run_cons hstep,
      ih (fun c hc => h c (List.mem_cons_of_mem _ hc))]
    simp

/-- The digits of a number lead to a scan that any other byte ends. -/
theorem run_decimal (negative : Bool) (n : Nat) : ∃ b rest s, utf8 (decimal n) = b :: rest ∧
    isDigit b = true ∧ run feed (ofWhole (columnAfter b) negative [b.toNat - 0x30]) rest = .more s ∧
    ∀ e, ends e = true → s.feed e = .past ⟨negative, (decimal n).map digitValue, [], none⟩ := by
  have hends : ∀ column, column = .zero ∨ column = .whole → ∀ ds e, ends e = true →
      feed (ofWhole column negative ds) e = .past ⟨negative, ds.reverse, [], none⟩ := by
    intro column hcolumn ds e he
    simp only [ends, Bool.not_eq_true', Bool.or_eq_false_iff] at he
    obtain ⟨⟨⟨hdigit, hpoint⟩, hsmall⟩, hcapital⟩ := he
    rcases hcolumn with rfl | rfl <;>
      simp [feed, ofWhole, hdigit, hpoint, hsmall, hcapital, close, numeral?]
  by_cases hn : n = 0
  · subst hn
    exact ⟨0x30, [], ofWhole .zero negative [0], rfl, rfl, rfl, hends .zero (.inl rfl) [0]⟩
  · obtain ⟨c, cs, hcs, hc⟩ := Text.decimal_head hn
    have hdigits : ∀ d ∈ c :: cs, d.isDigit = true := fun d hd =>
      Text.isDigit_of_mem_decimal (n := n) (by rw [hcs]; exact hd)
    obtain ⟨b, hb, hdigit, hval, hzero⟩ := byte_of_isDigit (hdigits c (List.mem_cons_self ..))
    have hne : b ≠ 0x30 := fun he => hc (hzero he)
    refine ⟨b, utf8 cs, ofWhole .whole negative ((cs.map digitValue).reverse ++ [digitValue c]),
      by rw [hcs, utf8_cons, hb]; rfl, hdigit, ?_, ?_⟩
    · rw [hval, show columnAfter b = .whole by simp [columnAfter, hne]]
      exact run_whole (fun d hd => hdigits d (List.mem_cons_of_mem _ hd)) negative _
    · intro e he
      rw [hends .whole (.inr rfl) _ e he, hcs]
      simp

end NumberScan

end Json

end SwitchBench
