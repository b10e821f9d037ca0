import SwitchBench.Proofs.Json.Records

/-! Values that are cut off.

A value is cut off when the input ends inside it. Only a number can be taken for a whole
one then. A whole number that is cut off is again a whole number, not further from zero,
and one inside an array or object does not count, since that is cut off with it. So a
reader that takes texts, whole numbers and the like either misses what is cut off or takes
a number that is as good (`Walk.finish_of_yields`).

What one byte does to a scan or a walk is said once (`Takes`); what runs come to is
derived from that. -/
namespace SwitchBench.Json

/-! ### Numbers -/

namespace Numeral

/-- Digits behind others make a number no smaller. -/
theorem accumulate_front {acc m : Nat} {ds es : List Nat} (h : accumulate acc (ds ++ es) = (m, 0)) :
    ∃ k, accumulate acc ds = (k, 0) ∧ acc ≤ k ∧ k ≤ m := by
  induction ds generalizing acc with
  | nil =>
    induction es generalizing acc with
    | nil => cases h; exact ⟨_, rfl, Nat.le_refl _, Nat.le_refl _⟩
    | cons e es ih =>
      rw [List.nil_append, accumulate] at h
      split at h
      · obtain ⟨k, hk, hle, hm⟩ := ih h
        cases hk
        exact ⟨acc, rfl, Nat.le_refl _, by omega⟩
      · cases h
  | cons d ds ih =>
    rw [List.cons_append, accumulate] at h
    split at h
    next hlt =>
      obtain ⟨k, hk, hle, hm⟩ := ih h
      exact ⟨k, by rw [accumulate, if_pos hlt, hk], by omega, hm⟩
    · cases h

/-- Digits that begin with one other than zero make up a number other than zero. -/
theorem accumulate_ne_zero {d m : Nat} {ds : List Nat} (hd : d ≠ 0)
    (h : accumulate 0 (d :: ds) = (m, 0)) : m ≠ 0 := by
  rw [accumulate, Nat.zero_mul, Nat.zero_add] at h
  split at h
  · rw [← List.append_nil ds] at h
    obtain ⟨k, -, hle, hk⟩ := accumulate_front h
    omega
  · cases h

/-- Whole numbers are written without a fraction and an exponent, and fit 64 bits. -/
theorem value?_eq_whole_iff {n : Numeral} {i : Int} : n.value? = some (.whole i) ↔
    n.fraction = [] ∧ n.exponent = none ∧ ∃ m, accumulate 0 n.whole = (m, 0) ∧
      (n.negative = false ∧ i = m ∨
        n.negative = true ∧ m ≠ 0 ∧ m ≤ 9223372036854775808 ∧ i = -m) := by
  have hreal : n.real?.map JsonNumber.real ≠ some (.whole i) := by
    cases n.real? <;> simp
  constructor
  · intro h
    unfold value? at h
    split at h
    next m hfraction hexponent hwhole =>
      refine ⟨hfraction, hexponent, m, hwhole, ?_⟩
      split at h
      next hsign => exact .inl ⟨by simpa using hsign, by cases h; rfl⟩
      next hsign =>
        split at h
        next hm => exact .inr ⟨by simpa using hsign, hm.1, hm.2, by cases h; rfl⟩
        · exact absurd h hreal
    · exact absurd h hreal
  · rintro ⟨hfraction, hexponent, m, hwhole, ⟨hsign, rfl⟩ | ⟨hsign, hm, hle, rfl⟩⟩ <;>
      simp_all [value?]

end Numeral

/-- The number has neither a point nor an exponent so far. -/
def Column.isWhole : Column → Bool
  | .sign | .zero | .whole => true
  | .point | .fraction | .mark | .markSign | .exponent => false

namespace NumberScan

/-- What a byte does to a number. -/
inductive Takes (s : NumberScan) (b : UInt8) : Fed NumberScan Numeral → Prop
  /-- It is the first digit, -/
  | first (hs : s.column = .sign) (hb : isDigit b = true) : Takes s b
    (.more { s with column := if b == 0x30 then .zero else .whole, whole := [b.toNat - 0x30] })
  /-- or a further one of a whole number, -/
  | further (hs : s.column = .whole) (hb : isDigit b = true) : Takes s b
    (.more { s with column := .whole, whole := (b.toNat - 0x30) :: s.whole })
  /-- or the number is no whole one from there on, -/
  | beyond {t : NumberScan} (column : t.column.isWhole = false)
    (fraction : t.column = .fraction → t.fraction ≠ []) : Takes s b (.more t)
  /-- or it had ended, where it can end. -/
  | past {n : Numeral} (hn : s.numeral? = some n) : Takes s b (.past n)
  | bad : Takes s b .bad

theorem takes_close (s : NumberScan) (b : UInt8) : Takes s b s.close := by
  unfold close
  split
  next n hn => exact .past hn
  · exact .bad

theorem takes_of_feed {s : NumberScan} {b : UInt8} {r : Fed NumberScan Numeral} (h : s.feed b = r) :
    Takes s b r := by
  subst h
  unfold feed
  cases hs : s.column <;> dsimp only
  case sign =>
    split
    next hb => exact .first hs hb
    · exact .bad
  case zero =>
    repeat' split
    · exact .bad
    · exact .beyond rfl (by simp)
    · exact .beyond rfl (by simp)
    · exact takes_close s b
  case whole =>
    repeat' split
    next hb => exact .further hs hb
    · exact .beyond rfl (by simp)
    · exact .beyond rfl (by simp)
    · exact takes_close s b
  case point =>
    split
    · exact .beyond rfl (by simp)
    · exact .bad
  case fraction =>
    repeat' split
    · exact .beyond rfl (by simp)
    · exact .beyond rfl (by simp)
    · exact takes_close s b
  case mark =>
    repeat' split
    · exact .beyond rfl (by simp)
    · exact .beyond rfl (by simp)
    · exact .beyond rfl (by simp)
    · exact .bad
  case markSign =>
    split
    · exact .beyond rfl (by simp)
    · exact .bad
  case exponent =>
    split
    · exact .beyond rfl (by simp)
    · exact takes_close s b

/-- A whole number other than zero begins with a digit other than zero, and a fraction has
digits. -/
structure Sound (s : NumberScan) : Prop where
  head : s.column = .whole → ∃ d ds, s.whole = ds ++ [d] ∧ d ≠ 0
  fraction : s.column = .fraction → s.fraction ≠ []

theorem digit_ne_zero {b : UInt8} (h : isDigit b = true) (hb : ¬ b = 0x30) : b.toNat - 0x30 ≠ 0 := by
  have hle : 0x30 ≤ b.toNat := by
    simp only [isDigit, Bool.and_eq_true, decide_eq_true_eq] at h
    exact UInt8.le_iff_toNat_le.mp h.1
  have hne : b.toNat ≠ 0x30 := fun he => hb (UInt8.toNat_inj.mp he)
  omega

/-- A number that begins with a digit is sound, whatever stands beside it. -/
theorem sound_first (s : NumberScan) {b : UInt8} (h : isDigit b = true) : Sound
    { s with column := if b == 0x30 then .zero else .whole, whole := [b.toNat - 0x30] } where
  head hcolumn := by
    by_cases hb : b = 0x30
    · simp [hb] at hcolumn
    · exact ⟨b.toNat - 0x30, [], rfl, digit_ne_zero h hb⟩
  fraction hcolumn := by
    by_cases hb : b = 0x30 <;> simp [hb] at hcolumn

theorem sound_ofSign : ofSign.Sound where
  head h := by cases h
  fraction h := by cases h

theorem Sound.feed {s t : NumberScan} {b : UInt8} (h : s.Sound) (ht : s.feed b = .more t) : t.Sound := by
  cases takes_of_feed ht with
  | first _ hb => exact s.sound_first hb
  | further hs _ =>
    obtain ⟨d, ds, hds, hd⟩ := h.head hs
    exact ⟨fun _ => ⟨d, _ :: ds, by rw [hds]; rfl, hd⟩, fun hfraction => by cases hfraction⟩
  | beyond hcolumn hfraction =>
    refine ⟨fun hwhole => ?_, hfraction⟩
    rw [hwhole] at hcolumn
    cases hcolumn

theorem Sound.run {s t : NumberScan} {bytes : List UInt8} (h : s.Sound)
    (ht : run NumberScan.feed s bytes = .more t) : t.Sound := by
  induction bytes generalizing s with
  | nil => cases ht; exact h
  | cons b rest ih =>
    obtain ⟨u, hb, hu⟩ := feed_of_run_cons ht
    exact ih (h.feed hb) hu

/-- A number stays what it is past a point or an exponent. -/
theorem isWhole_of_run {s t : NumberScan} {bytes : List UInt8} (h : run feed s bytes = .more t)
    (ht : t.column.isWhole = true) : s.column.isWhole = true := by
  induction bytes generalizing s with
  | nil => cases h; exact ht
  | cons b rest ih =>
    obtain ⟨u, hb, hu⟩ := feed_of_run_cons h
    cases takes_of_feed hb with
    | first hs _ => rw [hs]; rfl
    | further hs _ => rw [hs]; rfl
    | beyond hcolumn _ => rw [ih hu] at hcolumn; cases hcolumn

/-- Digits that have been read of a whole number are the first of those that it ends with. -/
theorem run_to_whole {s t : NumberScan} {bytes : List UInt8} (h : run feed s bytes = .more t)
    (ht : t.column.isWhole = true) (hs : s.column ≠ .sign) :
    t = s ∨ s.column = .whole ∧ ∃ ds, t = { s with column := .whole, whole := ds ++ s.whole } := by
  induction bytes generalizing s with
  | nil => cases h; exact .inl rfl
  | cons b rest ih =>
    obtain ⟨u, hb, hu⟩ := feed_of_run_cons h
    cases takes_of_feed hb with
    | first hsign _ => exact absurd hsign hs
    | further hwhole _ =>
      refine .inr ⟨hwhole, ?_⟩
      rcases ih hu (by simp) with hsame | ⟨-, ds, hds⟩
      · exact ⟨[b.toNat - 0x30], hsame⟩
      · exact ⟨ds ++ [b.toNat - 0x30], by rw [hds]; simp⟩
    | beyond hcolumn _ => rw [isWhole_of_run hu ht] at hcolumn; cases hcolumn

/-- A scan that can end as a whole number is in its digits. -/
theorem of_whole {s : NumberScan} (sound : s.Sound) {n : Numeral} (hn : s.numeral? = some n) {i : Int}
    (hi : n.value? = some (.whole i)) : s.column.isWhole = true ∧ s.fraction = [] ∧
      n = ⟨s.negative, s.whole.reverse, [], none⟩ := by
  obtain ⟨hfraction, hexponent, -⟩ := Numeral.value?_eq_whole_iff.mp hi
  unfold numeral? at hn
  dsimp only at hn
  split at hn <;> cases hn
  next hcolumn => exact ⟨by rw [hcolumn]; rfl, List.reverse_eq_nil_iff.mp hfraction, by simp_all⟩
  next hcolumn => exact ⟨by rw [hcolumn]; rfl, List.reverse_eq_nil_iff.mp hfraction, by simp_all⟩
  next hcolumn => exact absurd (List.reverse_eq_nil_iff.mp hfraction) (sound.fraction hcolumn)
  next => cases hexponent

/-- **A whole number that is cut off** is another one, not further from zero. -/
theorem value?_of_cut {s t : NumberScan} (sound : s.Sound) {bytes : List UInt8}
    (hrun : run feed s bytes = .more t) {k n : Numeral} (hk : s.numeral? = some k)
    (hn : t.numeral? = some n) {i : Int} (hi : n.value? = some (.whole i)) :
    ∃ j, k.value? = some (.whole j) ∧ (0 ≤ j ∧ j ≤ i ∨ i ≤ j ∧ j ≤ 0) := by
  obtain ⟨hcolumn, hfraction, rfl⟩ := of_whole (sound.run hrun) hn hi
  have hsign : s.column ≠ .sign := fun h => by rw [numeral?, h] at hk; cases hk
  rcases run_to_whole hrun hcolumn hsign with rfl | ⟨hs, ds, rfl⟩
  · rw [hk] at hn
    cases hn
    exact ⟨i, hi, by omega⟩
  · have hkdigits : k = ⟨s.negative, s.whole.reverse, [], none⟩ := by
      have hnone : s.fraction = [] := hfraction
      rw [numeral?, hs, hnone] at hk
      exact (Option.some.inj hk).symm
    obtain ⟨-, -, m, hm, hsize⟩ := Numeral.value?_eq_whole_iff.mp hi
    rw [show (⟨s.negative, (ds ++ s.whole).reverse, [], none⟩ : Numeral).whole =
      s.whole.reverse ++ ds.reverse from List.reverse_append] at hm
    obtain ⟨j, hj, -, hle⟩ := Numeral.accumulate_front hm
    have hne : j ≠ 0 := by
      obtain ⟨d, es, hes, hd⟩ := sound.head hs
      rw [hes, List.reverse_append] at hj
      exact Numeral.accumulate_ne_zero hd hj
    rw [hkdigits]
    rcases hsize with ⟨hsign, rfl⟩ | ⟨hsign, -, hm, rfl⟩
    · exact ⟨j, Numeral.value?_eq_whole_iff.mpr ⟨rfl, rfl, j, hj, .inl ⟨hsign, rfl⟩⟩, by omega⟩
    · exact ⟨-j, Numeral.value?_eq_whole_iff.mpr
        ⟨rfl, rfl, j, hj, .inr ⟨hsign, hne, by omega, rfl⟩⟩, by omega⟩

end NumberScan

/-! ### Values -/

/-- A reader in this place can be led to yield `a`: by a last byte, or by one behind it. -/
inductive Yields {σ α : Type} (feed : σ → UInt8 → Fed σ α) (a : α) : σ → Prop
  | last {s : σ} {b : UInt8} (h : feed s b = .done a ∨ feed s b = .past a) : Yields feed a s
  | step {s t : σ} {b : UInt8} (h : feed s b = .more t) (rest : Yields feed a t) : Yields feed a s

namespace Walk
variable {room : Nat}

/-- What punctuation leads to inside the frames that are open: a place inside frames that
is not in a number, or a whole array or object. -/
inductive Punctuated (mode : Mode) : Fed Walk Json → Prop
  | bad : Punctuated mode .bad
  | more {frames : List Frame} {phase : Phase} (inside : frames ≠ []) (other : ∀ s, phase ≠ .number s) :
    Punctuated mode (.more ⟨frames, phase⟩)
  | done {v : Json} (compound : mode.keeps = true → v.isScalar = false) : Punctuated mode (.done v)

theorem punctuated_deliver (mode : Mode) {v : Json} {frames : List Frame}
    (h : frames = [] → mode.keeps = true → v.isScalar = false) : Punctuated mode (deliver mode v frames) := by
  cases frames with
  | nil => exact .done (h rfl)
  | cons f rest => exact .more (by simp) (by simp)

theorem isScalar_value (f : Frame) : f.value.isScalar = false := by
  cases f <;> rfl

theorem punctuated_leave (mode : Mode) (frames : List Frame) : Punctuated mode (leave mode frames) := by
  cases frames with
  | nil => exact .bad
  | cons f rest => exact punctuated_deliver mode fun _ hkeeps => by rw [if_pos hkeeps]; exact isScalar_value f

theorem punctuated_separate (mode : Mode) (frames : List Frame) (b : UInt8) :
    Punctuated mode (separate mode frames b) := by
  unfold separate
  split
  · repeat' split
    · exact .more (by simp) (by simp)
    · exact .more (by simp) (by simp)
    · exact punctuated_leave mode _
    · exact .bad
  · repeat' split
    · exact .more (by simp) (by simp)
    · exact .more (by simp) (by simp)
    · exact punctuated_leave mode _
    · exact .bad
  · exact .bad

/-- What a byte leads to. -/
inductive Takes (mode : Mode) (w : Walk) (b : UInt8) : Fed Walk Json → Prop
  | punctuated {r : Fed Walk Json} (h : Punctuated mode r) : Takes mode w b r
  /-- A value begins. -/
  | begun {u : Walk} (h : enter mode w.frames b = some u) : Takes mode w b (.more u)
  /-- A number goes on. -/
  | counted {s t : NumberScan} (h : w.phase = .number s) (ht : s.feed b = .more t) :
    Takes mode w b (.more { w with phase := .number t })
  /-- The walk goes on otherwise. -/
  | other {phase : Phase} (h : ∀ s, phase ≠ .number s) : Takes mode w b (.more { w with phase })
  /-- A value ends outside all frames, -/
  | delivered {v : Json} (h : w.frames = []) : Takes mode w b (.done v)
  /-- or had ended. -/
  | ended {s : NumberScan} {n : Numeral} {v : Json} (h : w.frames = []) (hs : w.phase = .number s)
    (hn : s.numeral? = some n)
    (hv : (if mode.keeps then n.value?.map .number else some .null) = some v) : Takes mode w b (.past v)

theorem takes_begin (mode : Mode) (w : Walk) (b : UInt8) : Takes mode w b (begin mode w.frames b) := by
  unfold begin
  split
  next u h => exact .begun h
  · exact .punctuated .bad

theorem takes_deliver (mode : Mode) (w : Walk) (b : UInt8) (v : Json) :
    Takes mode w b (deliver mode v w.frames) := by
  cases h : w.frames with
  | nil => exact .delivered h
  | cons f rest => exact .punctuated (.more (by simp) (by simp))

theorem takes_stay {mode : Mode} {w : Walk} {b : UInt8} (h : ∀ s, w.phase ≠ .number s) :
    Takes mode w b (.more w) := .other (w := w) h

/-- A name goes to the innermost frame. -/
theorem takes_rename (mode : Mode) (w : Walk) (b : UInt8) (t : String) : Takes mode w b
    (match w.frames with
      | f :: rest => .more ⟨f.rename t :: rest, .colon⟩
      | [] => .bad) := by
  split
  · exact .punctuated (.more (by simp) (by simp))
  · exact .punctuated .bad

theorem takes_deliverNumber {mode : Mode} {w : Walk} {b : UInt8} {s : NumberScan} {n : Numeral}
    (hs : w.phase = .number s) (hn : s.numeral? = some n) :
    Takes mode w b (deliverNumber mode n w.frames b) := by
  unfold deliverNumber
  dsimp only
  split
  · exact .punctuated .bad
  next v hv hframes => exact .ended hframes hs hn hv
  next => exact .punctuated (punctuated_separate mode _ b)

theorem takes_of_feed {mode : Mode} {w : Walk} {b : UInt8} {r : Fed Walk Json} (h : feed mode w b = r) :
    Takes mode w b r := by
  subst h
  unfold feed
  cases hphase : w.phase <;> dsimp only
  case value =>
    split
    · exact takes_stay (by simp [hphase])
    · exact takes_begin mode w b
  case item =>
    repeat' split
    · exact takes_stay (by simp [hphase])
    · exact .punctuated (punctuated_leave mode _)
    · exact takes_begin mode w b
  case member =>
    repeat' split
    · exact takes_stay (by simp [hphase])
    · exact .punctuated (punctuated_leave mode _)
    · exact .other (by simp)
    · exact .punctuated .bad
  case name =>
    repeat' split
    · exact takes_stay (by simp [hphase])
    · exact .other (by simp)
    · exact .punctuated .bad
  case colon =>
    repeat' split
    · exact takes_stay (by simp [hphase])
    · exact .other (by simp)
    · exact .punctuated .bad
  case after => exact .punctuated (punctuated_separate mode _ b)
  case text =>
    split
    · exact .other (by simp)
    · exact takes_deliver mode w b _
    · exact takes_deliver mode w b _
    · exact .punctuated .bad
  case nameText =>
    split
    · exact .other (by simp)
    · exact takes_rename mode w b _
    · exact takes_rename mode w b _
    · exact .punctuated .bad
  case word =>
    repeat' split
    · exact .punctuated .bad
    · exact takes_deliver mode w b _
    · exact .other (by simp)
    · exact .punctuated .bad
  case number s =>
    split
    next t ht => exact .counted hphase ht
    next n hn => cases NumberScan.takes_of_feed hn
    next n hn =>
      cases NumberScan.takes_of_feed hn with
      | past hnumeral => exact takes_deliverNumber hphase hnumeral
    · exact .punctuated .bad

/-- The number that a walk is in, if any, is sound. -/
def Sound (w : Walk) : Prop := ∀ s, w.phase = .number s → s.Sound

/-- A value that begins is a number or stands inside the frames that are open. -/
inductive Begins (frames : List Frame) : Option Walk → Prop
  | none : Begins frames none
  | number {s : NumberScan} (sound : s.Sound) : Begins frames (some ⟨frames, .number s⟩)
  | other (opened : List Frame) {phase : Phase} (h : ∀ s, phase ≠ .number s) :
    Begins frames (some ⟨opened ++ frames, phase⟩)

theorem begins_enter (mode : Mode) (frames : List Frame) (b : UInt8) :
    Begins frames (enter mode frames b) := by
  unfold enter
  repeat' split
  · exact .other [] (by simp)
  · exact .other [] (by simp)
  · exact .other [] (by simp)
  · exact .number NumberScan.sound_ofSign
  next hb => exact .number (NumberScan.sound_first ⟨.sign, false, [], [], false, []⟩ hb)
  · exact .other [] (by simp)
  · exact .other [_] (by simp)
  · exact .none
  · exact .other [_] (by simp)
  · exact .none
  · exact .none

theorem sound_enter {mode : Mode} {frames : List Frame} {b : UInt8} {w : Walk}
    (h : enter mode frames b = some w) : w.Sound := by
  have hbegins := begins_enter mode frames b
  rw [h] at hbegins
  cases hbegins with
  | number sound => rintro _ ⟨⟩; exact sound
  | other _ hother => exact fun s hs => absurd hs (hother s)

theorem frames_of_enter {mode : Mode} {frames : List Frame} {b : UInt8} {w : Walk}
    (h : enter mode frames b = some w) (hne : frames ≠ []) : w.frames ≠ [] := by
  have hbegins := begins_enter mode frames b
  rw [h] at hbegins
  cases hbegins with
  | number _ => exact hne
  | other _ _ => exact List.append_ne_nil_of_right_ne_nil _ hne

theorem Sound.feed {mode : Mode} {w u : Walk} {b : UInt8} (h : w.Sound) (hu : feed mode w b = .more u) :
    u.Sound := by
  cases takes_of_feed hu with
  | punctuated hpunctuated =>
    cases hpunctuated with
    | more _ hother => exact fun s hs => absurd hs (hother s)
  | begun henter => exact sound_enter henter
  | counted hs ht =>
    rintro _ ⟨⟩
    exact (h _ hs).feed ht
  | other hother => exact fun s hs => absurd hs (hother s)

/-- What is read inside frames is an array or an object. -/
theorem isScalar_of_yields {v : Json} {w : Walk} (h : Yields (feed (.keep room)) v w)
    (hframes : w.frames ≠ []) : v.isScalar = false := by
  induction h with
  | @last w b hlast =>
    rcases hlast with hdone | hpast
    · cases takes_of_feed hdone with
      | punctuated hpunctuated =>
        cases hpunctuated with
        | done hcompound => exact hcompound rfl
      | delivered hnone => exact absurd hnone hframes
    · cases takes_of_feed hpast with
      | punctuated hpunctuated => cases hpunctuated
      | ended hnone => exact absurd hnone hframes
  | @step w u b hu _ ih =>
    apply ih
    cases takes_of_feed hu with
    | punctuated hpunctuated =>
      cases hpunctuated with
      | more hinside _ => exact hinside
    | begun henter => exact frames_of_enter henter hframes
    | counted hs ht => exact hframes
    | other hother => exact hframes

/-- A walk in a number that stands outside all frames goes on in it or yields it. -/
theorem feed_number (room : Nat) (s : NumberScan) (b : UInt8) :
    (∃ t, s.feed b = .more t ∧ feed (.keep room) ⟨[], .number s⟩ b = .more ⟨[], .number t⟩) ∨
    feed (.keep room) ⟨[], .number s⟩ b = .bad ∨
    ∃ n x, s.numeral? = some n ∧ n.value? = some x ∧
      feed (.keep room) ⟨[], .number s⟩ b = .past (.number x) := by
  cases hfeed : s.feed b with
  | more t => exact .inl ⟨t, rfl, by simp [feed, hfeed]⟩
  | done n => cases NumberScan.takes_of_feed hfeed
  | bad => exact .inr (.inl (by simp [feed, hfeed]))
  | past n =>
    cases hx : n.value? with
    | none => exact .inr (.inl (by simp [feed, hfeed, deliverNumber, Mode.keeps, hx]))
    | some x =>
      cases NumberScan.takes_of_feed hfeed with
      | past hn => exact .inr (.inr ⟨n, x, hn, hx, by simp [feed, hfeed, deliverNumber, Mode.keeps, hx]⟩)

/-- What is read in a number outside frames is the number. -/
theorem number_of_yields {v : Json} {w : Walk} (h : Yields (feed (.keep room)) v w) {s : NumberScan}
    (hw : w = ⟨[], .number s⟩) :
    ∃ bytes t n x, run NumberScan.feed s bytes = .more t ∧ t.numeral? = some n ∧
      n.value? = some x ∧ v = .number x := by
  induction h generalizing s with
  | @last w b hlast =>
    subst hw
    rcases feed_number room s b with ⟨t, -, hmore⟩ | hbad | ⟨n, x, hn, hx, hpast⟩
    · rcases hlast with h | h <;> · rw [hmore] at h; cases h
    · rcases hlast with h | h <;> · rw [hbad] at h; cases h
    · rcases hlast with h | h
      · rw [hpast] at h; cases h
      · rw [hpast] at h
        cases h
        exact ⟨[], s, n, x, rfl, hn, hx, rfl⟩
  | @step w u b hu _ ih =>
    subst hw
    rcases feed_number room s b with ⟨t, ht, hmore⟩ | hbad | ⟨n, x, -, -, hpast⟩
    · rw [hmore] at hu
      cases hu
      obtain ⟨bytes, t', n, x, hrun, hn, hx, hv⟩ := ih rfl
      exact ⟨b :: bytes, t', n, x, (run_cons ht bytes).trans hrun, hn, hx, hv⟩
    · rw [hbad] at hu; cases hu
    · rw [hpast] at hu; cases hu

end Walk

/-- Takes scalars only and, of numbers, whole ones only, with each also those nearer to zero. -/
structure Field.Steady (f : Field) : Prop where
  scalar : ∀ v, f.accepts v = true → v.isScalar = true
  number : ∀ x, f.accepts (.number x) = true → ∃ i, x = .whole i ∧
    ∀ j, (0 ≤ j ∧ j ≤ i ∨ i ≤ j ∧ j ≤ 0) → f.accepts (.number (.whole j)) = true

/-- **A value that is cut off** is missed, or is one that its field accepts. -/
theorem Walk.finish_of_yields {f : Field} (hf : f.Steady) {v : Json} (hv : f.accepts v = true) {w : Walk}
    (sound : w.Sound) {room : Nat} (h : Yields (feed (.keep room)) v w) :
    w.finish (.keep room) = .cut ∨ ∃ u, w.finish (.keep room) = .value u ∧ f.accepts u = true := by
  obtain ⟨frames, phase⟩ := w
  cases phase with
  | number s =>
    cases frames with
    | cons f' rest =>
      have hscalar := isScalar_of_yields h (by simp)
      rw [hf.scalar v hv] at hscalar
      cases hscalar
    | nil =>
      cases hk : s.numeral? with
      | none => exact .inl (by simp [finish, hk])
      | some k =>
        obtain ⟨bytes, t, n, x, hrun, hn, hx, rfl⟩ := number_of_yields h rfl
        obtain ⟨i, rfl, hnear⟩ := hf.number x hv
        obtain ⟨j, hj, hle⟩ := NumberScan.value?_of_cut (sound s rfl) hrun hk hn hx
        exact .inr ⟨.number (.whole j), by simp [finish, hk, hj], hnear j hle⟩
  | _ => exact .inl rfl

end SwitchBench.Json
