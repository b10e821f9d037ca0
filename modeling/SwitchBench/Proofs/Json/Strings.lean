import SwitchBench.Json.Record
import SwitchBench.Json.Writer
import SwitchBench.Message.Reading

/-! Reading back the strings that are written.

The readers of JSON are fed byte by byte. Feeding a run of bytes is the same for all of
them (`run`), and so is lifting a run of an inner reader to the reader around it
(`run_lift`). Inside a string every escape comes back as the bytes of its character. -/
namespace SwitchBench

/-! ### Bytes of a text -/

theorem utf8_append (a b : List Char) : utf8 (a ++ b) = utf8 a ++ utf8 b := List.flatMap_append

theorem utf8_cons (c : Char) (cs : List Char) : utf8 (c :: cs) = String.utf8EncodeChar c ++ utf8 cs :=
  List.flatMap_cons

/-- The bytes of a text are those of the string. -/
theorem fromUTF8?_utf8 (s : String) : String.fromUTF8? ⟨(utf8 s.toList).toArray⟩ = some s := by
  have hbytes : (⟨(utf8 s.toList).toArray⟩ : ByteArray) = s.toByteArray := by
    rw [← String.utf8Encode_toList]
    apply ByteArray.ext
    rw [List.utf8Encode, List.data_toByteArray]
    rfl
  rw [hbytes]
  unfold String.fromUTF8?
  rw [dif_pos s.isValidUTF8]
  rfl

/-- An ASCII character is one byte. -/
theorem utf8EncodeChar_of_lt {c : Char} (h : c.toNat < 128) :
    String.utf8EncodeChar c = [UInt8.ofNat c.toNat] := by
  have hle : c.toNat ≤ 127 := Nat.le_of_lt_succ h
  unfold String.utf8EncodeChar
  simp [hle]

/-- Every byte of a character beyond ASCII is beyond ASCII. -/
theorem le_of_mem_utf8EncodeChar {c : Char} (h : 128 ≤ c.toNat) {b : UInt8}
    (hb : b ∈ String.utf8EncodeChar c) : 128 ≤ b.toNat := by
  have hbyte : ∀ n, 128 ≤ n → n < 256 → 128 ≤ (UInt8.ofNat n).toNat := by
    intro n hlow hhigh
    rw [UInt8.toNat_ofNat_of_lt' hhigh]
    exact hlow
  have hgt : ¬ c.toNat ≤ 127 := by omega
  unfold String.utf8EncodeChar at hb
  simp only [Char.toNat_val, hgt, if_false] at hb
  split at hb
  · simp only [List.mem_cons, List.not_mem_nil, or_false] at hb
    rcases hb with rfl | rfl <;> apply hbyte <;> omega
  · split at hb
    · simp only [List.mem_cons, List.not_mem_nil, or_false] at hb
      rcases hb with rfl | rfl | rfl <;> apply hbyte <;> omega
    · simp only [List.mem_cons, List.not_mem_nil, or_false] at hb
      rcases hb with rfl | rfl | rfl | rfl <;> apply hbyte <;> omega

namespace Json

/-! ### Feeding -/

section
variable {σ τ α β : Type}

/-- Feeds a reader a run of bytes that it is to take to the last. -/
def run (feed : σ → UInt8 → Fed σ α) (s : σ) : List UInt8 → Fed σ α
  | [] => .more s
  | b :: rest => match feed s b with
    | .more s => run feed s rest
    | r => if rest = [] then r else .bad

variable {feed : σ → UInt8 → Fed σ α}

theorem run_cons {s t : σ} {b : UInt8} (h : feed s b = .more t) (rest : List UInt8) :
    run feed s (b :: rest) = run feed t rest := by
  show (match feed s b with
    | .more s => run feed s rest
    | r => if rest = [] then r else .bad) = _
  rw [h]

theorem run_single (s : σ) (b : UInt8) : run feed s [b] = feed s b := by
  unfold run
  cases feed s b <;> rfl

/-- A run that goes on has gone on at its first byte. -/
theorem feed_of_run_cons {s t : σ} {b : UInt8} {rest : List UInt8}
    (h : run feed s (b :: rest) = .more t) : ∃ u, feed s b = .more u ∧ run feed u rest = .more t := by
  unfold run at h
  cases hb : feed s b with
  | more u => rw [hb] at h; exact ⟨u, rfl, h⟩
  | done _ | past _ | bad =>
    simp only [hb] at h
    split at h <;> cases h

theorem run_append {s t : σ} {bytes : List UInt8} (h : run feed s bytes = .more t) (more : List UInt8) :
    run feed s (bytes ++ more) = run feed t more := by
  induction bytes generalizing s with
  | nil => cases h; rfl
  | cons b rest ih =>
    obtain ⟨u, hb, hu⟩ := feed_of_run_cons h
    rw [List.cons_append, run_cons hb]
    exact ih hu

/-- What a run yields is yielded by its last byte. -/
theorem run_done_cases {s : σ} {a : α} {b : UInt8} {rest : List UInt8}
    (h : run feed s (b :: rest) = .done a) :
    (rest = [] ∧ feed s b = .done a) ∨ ∃ u, feed s b = .more u ∧ run feed u rest = .done a := by
  unfold run at h
  cases hb : feed s b with
  | more u => rw [hb] at h; exact .inr ⟨u, rfl, h⟩
  | done c =>
    simp only [hb] at h
    split at h
    next hrest => exact .inl ⟨hrest, h⟩
    · cases h
  | past _ | bad =>
    simp only [hb] at h
    split at h <;> cases h

/-- A reader that hands its bytes on goes on as long as the reader inside does, -/
theorem run_lift (outer : τ → UInt8 → Fed τ β) (lift : σ → τ)
    (hmore : ∀ s b t, feed s b = .more t → outer (lift s) b = .more (lift t)) {s t : σ}
    {bytes : List UInt8} (h : run feed s bytes = .more t) :
    run outer (lift s) bytes = .more (lift t) := by
  induction bytes generalizing s with
  | nil => cases h; rfl
  | cons b rest ih =>
    obtain ⟨u, hb, hu⟩ := feed_of_run_cons h
    rw [run_cons (hmore s b u hb)]
    exact ih hu

/-- and does as it does with what the reader inside yields. -/
theorem run_lift_done (outer : τ → UInt8 → Fed τ β) (lift : σ → τ) (r : Fed τ β)
    (hmore : ∀ s b t, feed s b = .more t → outer (lift s) b = .more (lift t)) {a : α}
    (hdone : ∀ s b, feed s b = .done a → outer (lift s) b = r) {s : σ} {bytes : List UInt8}
    (h : run feed s bytes = .done a) : run outer (lift s) bytes = r := by
  induction bytes generalizing s with
  | nil => cases h
  | cons b rest ih =>
    rcases run_done_cases h with ⟨rfl, hb⟩ | ⟨u, hb, hu⟩
    · rw [run_single]
      exact hdone s b hb
    · rw [run_cons (hmore s b u hb)]
      exact ih hu

end

/-- What a run yields does not depend on the bytes after it. -/
theorem Record.advance_of_run {fields : List Field} {s : Record.State} {slots : List (Option Json)}
    {bytes : List UInt8} (h : run (Record.feed fields) s bytes = .done slots) (more : List UInt8) :
    Record.advance fields s (bytes ++ more) = .done slots := by
  induction bytes generalizing s with
  | nil => cases h
  | cons b rest ih =>
    rw [List.cons_append]
    unfold Record.advance
    rcases run_done_cases h with ⟨-, hb⟩ | ⟨u, hb, hu⟩
    · rw [hb]
    · rw [hb]
      exact ih hu

/-- A run that yields at its last byte goes on before it. -/
theorem Record.advance_of_run_append {fields : List Field} {s : Record.State}
    {slots : List (Option Json)} {front back : List UInt8}
    (h : run (Record.feed fields) s (front ++ back) = .done slots) (hback : back ≠ []) :
    ∃ t, Record.advance fields s front = .more t := by
  induction front generalizing s with
  | nil => exact ⟨s, rfl⟩
  | cons b rest ih =>
    unfold Record.advance
    rcases run_done_cases h with ⟨hnil, -⟩ | ⟨u, hb, hu⟩
    · exact absurd (List.append_eq_nil_iff.mp hnil).2 hback
    · rw [hb]
      exact ih hu

/-! ### Strings -/

namespace TextScan
variable {room : Nat}

/-- A byte that is neither a quote nor a backslash nor a control stands for itself. -/
theorem feed_plain {b : UInt8} (hquote : b ≠ 0x22) (hslash : b ≠ 0x5C) (hcontrol : 0x20 ≤ b.toNat)
    (bs : List UInt8) : feed (.keep room) ⟨.plain, bs⟩ b = .more ⟨.plain, b :: bs⟩ := by
  have hlt : ¬ b < 0x20 := by
    rw [UInt8.lt_iff_toNat_lt]
    exact Nat.not_lt.mpr hcontrol
  simp [feed, hquote, hslash, hlt, Mode.keeps]

theorem run_plain {bytes : List UInt8} (h : ∀ b ∈ bytes, b ≠ 0x22 ∧ b ≠ 0x5C ∧ 0x20 ≤ b.toNat)
    (bs : List UInt8) :
    run (feed (.keep room)) ⟨.plain, bs⟩ bytes = .more ⟨.plain, bytes.reverse ++ bs⟩ := by
  induction bytes generalizing bs with
  | nil => rfl
  | cons b rest ih =>
    obtain ⟨hquote, hslash, hcontrol⟩ := h b (List.mem_cons_self ..)
    unfold run
    rw [feed_plain hquote hslash hcontrol]
    rw [List.reverse_cons, List.append_assoc]
    exact ih (fun b hb => h b (List.mem_cons_of_mem _ hb)) (b :: bs)

/-- The bytes of a character that needs no escape stand for themselves. -/
theorem plain_bytes {c : Char} (hquote : c ≠ '"') (hslash : c ≠ '\\') (hcontrol : ¬ c.toNat < 0x20) :
    ∀ b ∈ String.utf8EncodeChar c, b ≠ 0x22 ∧ b ≠ 0x5C ∧ 0x20 ≤ b.toNat := by
  intro b hb
  by_cases hascii : c.toNat < 128
  · rw [utf8EncodeChar_of_lt hascii, List.mem_singleton] at hb
    have hn : b.toNat = c.toNat := by
      rw [hb]
      exact UInt8.toNat_ofNat_of_lt' (Nat.lt_trans hascii (by decide))
    refine ⟨fun he => hquote (Char.toNat_inj.mp ?_), fun he => hslash (Char.toNat_inj.mp ?_), by omega⟩
    · rw [← hn, he]; rfl
    · rw [← hn, he]; rfl
  · have hle := le_of_mem_utf8EncodeChar (Nat.le_of_not_lt hascii) hb
    refine ⟨fun he => ?_, fun he => ?_, by omega⟩
    · subst he; exact absurd hle (by decide)
    · subst he; exact absurd hle (by decide)

/-- The byte of an ASCII character. -/
private def byteOf (c : Char) : UInt8 := UInt8.ofNat c.toNat

/-- A control character comes back from its escape in hexadecimal digits. -/
private theorem hexNumber?_control : ∀ n < 32,
    hexNumber? [byteOf (hexDigit n), byteOf (hexDigit (n / 16)), 0x30, 0x30] = some n := by
  decide

private theorem utf8_hexDigit (n : Nat) : String.utf8EncodeChar (hexDigit n) = [byteOf (hexDigit n)] := by
  apply utf8EncodeChar_of_lt
  have hascii : ∀ k < 16, (Nat.digitChar k).toNat < 128 := by decide
  exact hascii (n % 16) (Nat.mod_lt n (by decide))

theorem run_control {c : Char} (hc : c.toNat < 0x20) (bs : List UInt8) :
    run (feed (.keep room)) ⟨.plain, bs⟩
      (utf8 ['\\', 'u', '0', '0', hexDigit (c.toNat / 16), hexDigit c.toNat]) =
      .more ⟨.plain, (String.utf8EncodeChar c).reverse ++ bs⟩ := by
  have hbytes : utf8 ['\\', 'u', '0', '0', hexDigit (c.toNat / 16), hexDigit c.toNat] =
      [0x5C, 0x75, 0x30, 0x30, byteOf (hexDigit (c.toNat / 16))] ++ [byteOf (hexDigit c.toNat)] := by
    simp only [utf8_cons, utf8_hexDigit]
    rfl
  have hdigits : run (feed (.keep room)) ⟨.plain, bs⟩
      [0x5C, 0x75, 0x30, 0x30, byteOf (hexDigit (c.toNat / 16))] =
      .more ⟨.hex [byteOf (hexDigit (c.toNat / 16)), 0x30, 0x30], bs⟩ := rfl
  have hlow : ¬ 0xDC00 ≤ c.toNat := by omega
  have hhigh : ¬ 0xD800 ≤ c.toNat := by omega
  rw [hbytes, run_append hdigits, run_single]
  simp [feed, hexNumber?_control c.toNat hc, unit, Mode.keeps, hlow, hhigh, push]

/-- The bytes of an escape bring its character back. -/
theorem run_escaped (c : Char) (bs : List UInt8) :
    run (feed (.keep room)) ⟨.plain, bs⟩ (utf8 (escaped c)) =
      .more ⟨.plain, (String.utf8EncodeChar c).reverse ++ bs⟩ := by
  unfold escaped
  split
  next h => subst h; rfl
  split
  next h => subst h; rfl
  split
  next h => subst h; rfl
  split
  next h => subst h; rfl
  split
  next h => subst h; rfl
  split
  next h => subst h; rfl
  split
  next h => subst h; rfl
  split
  next h => exact run_control h bs
  next hquote hslash _ _ _ _ _ hcontrol =>
    rw [utf8_cons]
    exact (congrArg _ (List.append_nil _)).trans (run_plain (plain_bytes hquote hslash hcontrol) bs)

theorem run_escapeds (cs : List Char) (bs : List UInt8) :
    run (feed (.keep room)) ⟨.plain, bs⟩ (utf8 (cs.flatMap escaped)) =
      .more ⟨.plain, (utf8 cs).reverse ++ bs⟩ := by
  induction cs generalizing bs with
  | nil => rfl
  | cons c cs ih =>
    rw [List.flatMap_cons, utf8_append, run_append (run_escaped c bs), ih, utf8_cons,
      List.reverse_append, List.append_assoc]

/-- A quoted string is read up to its closing quote, -/
theorem run_inside (room : Nat) (s : String) :
    run (feed (.keep room)) .start (utf8 (s.toList.flatMap escaped)) =
      .more ⟨.plain, (utf8 s.toList).reverse⟩ := by
  have h : run (feed (.keep room)) ⟨.plain, []⟩ _ = _ := run_escapeds s.toList []
  rw [List.append_nil] at h
  exact h

/-- and the closing quote gives the string. -/
theorem feed_close (s : String) :
    feed (.keep room) ⟨.plain, (utf8 s.toList).reverse⟩ 0x22 = .done s := by
  have ht : (⟨.plain, (utf8 s.toList).reverse⟩ : TextScan).text? = some s := by
    unfold text?
    rw [List.reverse_reverse]
    exact fromUTF8?_utf8 s
  simp [feed, Mode.keeps, ht]

end TextScan

end Json

end SwitchBench
