import SwitchBench.Message.Reading

/-! The order of texts and of their bytes.

Texts are ordered by the code points of their characters. Their UTF-8 bytes are ordered alike, since
a longer encoding begins with a greater byte (`utf8_lt`). -/
namespace SwitchBench

theorem val_lt_of_char (c : Char) : c.val.toNat < 0x110000 := by
  have hvalid := c.valid
  unfold UInt32.isValidChar Nat.isValidChar at hvalid
  omega

theorem toNat_ofNat_byte {n : Nat} (h : n < 256) : (UInt8.ofNat n).toNat = n := UInt8.toNat_ofNat_of_lt' h

/-- The lesser character has the lesser bytes, whatever follows. -/
theorem utf8EncodeChar_lt {c d : Char} (h : c < d) (after behind : List UInt8) :
    String.utf8EncodeChar c ++ after < String.utf8EncodeChar d ++ behind := by
  have hlt : c.val.toNat < d.val.toNat := h
  have hmax := val_lt_of_char d
  unfold String.utf8EncodeChar
  generalize c.val.toNat = m at *
  generalize d.val.toNat = n at *
  -- A byte is read off the quotient that the byte after it is read off.
  have hsquare : ∀ k, k / 4096 = k / 64 / 64 := fun k => by omega
  have hcube : ∀ k, k / 262144 = k / 64 / 64 / 64 := fun k => by omega
  dsimp only
  repeat' split
  all_goals
    simp (disch := omega) only [List.cons_append, List.nil_append, List.cons_lt_cons_iff,
      UInt8.lt_iff_toNat_lt, ← UInt8.toNat_inj, toNat_ofNat_byte, hsquare, hcube]
    omega

theorem utf8EncodeChar_ne_nil (c : Char) : String.utf8EncodeChar c ≠ [] := by
  unfold String.utf8EncodeChar
  dsimp only
  repeat' split
  all_goals exact List.cons_ne_nil _ _

/-- **The lesser text has the lesser bytes.** -/
theorem utf8_lt {a b : List Char} (h : a < b) : utf8 a < utf8 b := by
  induction h with
  | nil =>
    next c cs =>
    show [] < String.utf8EncodeChar c ++ utf8 cs
    obtain ⟨byte, bytes, hc⟩ := List.exists_cons_of_ne_nil (utf8EncodeChar_ne_nil c)
    rw [hc]
    exact List.nil_lt_cons ..
  | rel hlt => exact utf8EncodeChar_lt hlt _ _
  | cons _ ih => exact List.append_left_lt ih

end SwitchBench
