import SwitchBench.Proofs.Json.Grammar
import SwitchBench.Proofs.Json.Values
import SwitchBench.Proofs.Text.Order

/-! Reading strings and numbers as they may be written.

A string is read to its text however it is spelled. One whose escapes are halves that do not match has no
text: where a value is wanted it is refused, at its closing quote at the latest, and where it is stepped
over it is passed (`TextScan.quoted_cases`). A number of any form is scanned up to the byte after it
(`NumberScan.run_numeric`). -/
namespace SwitchBench.Json

/-! ### Feeding without an end -/

section
variable {σ τ α β : Type}

/-- Feeds a reader bytes, as far as they lead. -/
def scan (feed : σ → UInt8 → Fed σ α) (s : σ) : List UInt8 → Fed σ α
  | [] => .more s
  | b :: rest => match feed s b with
    | .more s => scan feed s rest
    | r => r

variable {feed : σ → UInt8 → Fed σ α} {s t : σ}

theorem scan_cons {b : UInt8} (h : feed s b = .more t) (rest : List UInt8) :
    scan feed s (b :: rest) = scan feed t rest := by
  rw [scan, h]

theorem scan_cons_bad {b : UInt8} (h : feed s b = .bad) (rest : List UInt8) : scan feed s (b :: rest) = .bad := by
  rw [scan, h]

theorem scan_append (s : σ) (front back : List UInt8) : scan feed s (front ++ back) =
    match scan feed s front with
    | .more t => scan feed t back
    | r => r := by
  induction front generalizing s with
  | nil => rfl
  | cons b front ih =>
    rw [List.cons_append, scan, scan]
    cases feed s b with
    | more t => exact ih t
    | done _ | past _ | bad => rfl

/-- A run that goes on is a scan that goes on. -/
theorem scan_of_run {front : List UInt8} (h : run feed s front = .more t) (back : List UInt8) :
    scan feed s (front ++ back) = scan feed t back := by
  induction front generalizing s with
  | nil => cases h; rfl
  | cons b front ih =>
    obtain ⟨u, hb, hu⟩ := feed_of_run_cons h
    rw [List.cons_append, scan_cons hb]
    exact ih hu

/-- A scan that goes on is a run that goes on. -/
theorem run_of_scan {bytes : List UInt8} (h : scan feed s bytes = .more t) : run feed s bytes = .more t := by
  induction bytes generalizing s with
  | nil => cases h; rfl
  | cons b rest ih =>
    rw [scan] at h
    cases hb : feed s b with
    | more u =>
      rw [hb] at h
      rw [run_cons hb]
      exact ih h
    | done _ | past _ | bad => rw [hb] at h; cases h

theorem scan_single (s : σ) (b : UInt8) : scan feed s [b] = feed s b := by
  rw [scan]
  cases feed s b <;> rfl

/-- What is refused is refused whatever follows. -/
theorem scan_bad_append {front : List UInt8} (h : scan feed s front = .bad) (back : List UInt8) :
    scan feed s (front ++ back) = .bad := by
  rw [scan_append, h]

/-- A reader that hands its bytes on refuses what the reader inside refuses. -/
theorem scan_lift (outer : τ → UInt8 → Fed τ β) (lift : σ → τ)
    (hmore : ∀ s b t, feed s b = .more t → outer (lift s) b = .more (lift t))
    (hbad : ∀ s b, feed s b = .bad → outer (lift s) b = .bad) {bytes : List UInt8}
    (h : scan feed s bytes = .bad) : scan outer (lift s) bytes = .bad := by
  induction bytes generalizing s with
  | nil => cases h
  | cons b rest ih =>
    rw [scan] at h
    cases hb : feed s b with
    | more t =>
      rw [hb] at h
      rw [scan_cons (hmore s b t hb)]
      exact ih h
    | bad => exact scan_cons_bad (hbad s b hb) rest
    | done _ | past _ => rw [hb] at h; cases h

/-- It does as it does with what the reader inside yields. -/
theorem scan_lift_done (outer : τ → UInt8 → Fed τ β) (lift : σ → τ) (r : Fed τ β)
    (hmore : ∀ s b t, feed s b = .more t → outer (lift s) b = .more (lift t)) {a : α}
    (hdone : ∀ s b, feed s b = .done a → outer (lift s) b = r) {bytes : List UInt8}
    (h : run feed s bytes = .done a) : scan outer (lift s) bytes = r := by
  induction bytes generalizing s with
  | nil => cases h
  | cons b rest ih =>
    rcases run_done_cases h with ⟨rfl, hb⟩ | ⟨t, hb, ht⟩
    · rw [scan_single]
      exact hdone s b hb
    · rw [scan_cons (hmore s b t hb)]
      exact ih ht

/-- A reader that stays where it is on each byte stays there. -/
theorem run_stay {bytes : List UInt8} (h : ∀ b ∈ bytes, feed s b = .more s) : run feed s bytes = .more s := by
  induction bytes with
  | nil => rfl
  | cons b rest ih =>
    rw [run_cons (h b (List.mem_cons_self ..))]
    exact ih fun b hb => h b (List.mem_cons_of_mem _ hb)

end

theorem Record.advance_eq_scan (fields : List Field) (s : Record.State) (bytes : List UInt8) :
    Record.advance fields s bytes = scan (Record.feed fields) s bytes := by
  induction bytes generalizing s with
  | nil => rfl
  | cons b rest ih =>
    rw [Record.advance, scan]
    cases Record.feed fields s b with
    | more t => exact ih t
    | done _ | past _ | bad => rfl

/-! ### White space -/

theorem isSpace_of_blank {w : List Char} (h : Blank w) : ∀ b ∈ utf8 w, isSpace b = true := by
  intro b hb
  obtain ⟨c, hc, hb⟩ := List.mem_flatMap.mp hb
  rcases h c hc with rfl | rfl | rfl | rfl <;>
    · rw [List.mem_singleton.mp (show b ∈ [_] from hb)]
      rfl

/-- A reader that stays where it is on white space stays there. -/
theorem run_blank {σ α : Type} {feed : σ → UInt8 → Fed σ α} {s : σ}
    (hspace : ∀ b, isSpace b = true → feed s b = .more s) {w : List Char} (h : Blank w) :
    run feed s (utf8 w) = .more s :=
  run_stay fun b hb => hspace b (isSpace_of_blank h b hb)

/-! ### Members and items -/

theorem utf8_member (w name x y v z : List Char) :
    utf8 (w ++ '"' :: (name ++ '"' :: (x ++ ':' :: (y ++ (v ++ z))))) =
      utf8 (w ++ '"' :: (name ++ '"' :: (x ++ ':' :: y))) ++ (utf8 v ++ utf8 z) := by
  simp only [utf8_append, utf8_cons, List.append_assoc]

theorem utf8_members (w name x y v z rest : List Char) :
    utf8 (w ++ '"' :: (name ++ '"' :: (x ++ ':' :: (y ++ (v ++ (z ++ ',' :: rest)))))) =
      utf8 (w ++ '"' :: (name ++ '"' :: (x ++ ':' :: (y ++ (v ++ z))))) ++ 0x2C :: utf8 rest := by
  simp only [utf8_append, utf8_cons, List.append_assoc]
  rfl

theorem utf8_items (w v x rest : List Char) :
    utf8 (w ++ (v ++ (x ++ ',' :: rest))) = utf8 (w ++ (v ++ x)) ++ 0x2C :: utf8 rest := by
  simp only [utf8_append, utf8_cons, List.append_assoc]
  rfl

/-! ### Strings -/

/-- A hexadecimal digit is a byte that is known for its value. -/
theorem byte_of_hexDigit {c : Char} {d : Nat} (h : HexDigit c d) :
    ∃ b, String.utf8EncodeChar c = [b] ∧ hexValue? b = some d := by
  have hall : ∀ p ∈ "0123456789abcdef".toList.zipIdx ++ "0123456789ABCDEF".toList.zipIdx,
      String.utf8EncodeChar p.1 = [UInt8.ofNat p.1.toNat] ∧ hexValue? (UInt8.ofNat p.1.toNat) = some p.2 := by
    decide
  exact ⟨_, hall (c, d) (List.mem_append.mpr (h.imp List.mk_mem_zipIdx_iff_getElem?.mpr
    List.mk_mem_zipIdx_iff_getElem?.mpr))⟩

theorem bytes_of_fourHex {ds : List Char} {n : Nat} (h : FourHex ds n) :
    ∃ a b c d, utf8 ds = [a, b, c] ++ [d] ∧ hexNumber? [d, c, b, a] = some n := by
  cases h with
  | digits ha hb hc hd =>
    obtain ⟨a, ha, hi⟩ := byte_of_hexDigit ha
    obtain ⟨b, hb, hj⟩ := byte_of_hexDigit hb
    obtain ⟨c, hc, hk⟩ := byte_of_hexDigit hc
    obtain ⟨d, hd, hl⟩ := byte_of_hexDigit hd
    exact ⟨a, b, c, d, by simp [utf8, ha, hb, hc, hd], by simp [hexNumber?, hi, hj, hk, hl]⟩

namespace TextScan
variable {mode : Mode} {room : Nat}

/-- After the digits of an escape. -/
theorem scan_hex {ds : List Char} {n : Nat} (h : FourHex ds n) (bs : List UInt8) :
    scan (feed mode) ⟨.plain, bs⟩ (utf8 ('\\' :: 'u' :: ds)) = (⟨.plain, bs⟩ : TextScan).unit mode n := by
  obtain ⟨a, b, c, d, hds, hn⟩ := bytes_of_fourHex h
  have hbytes : utf8 ('\\' :: 'u' :: ds) = [0x5C, 0x75, a, b, c] ++ [d] := by
    rw [utf8_cons, utf8_cons, hds]
    rfl
  have hfront : run (feed mode) ⟨.plain, bs⟩ [0x5C, 0x75, a, b, c] = .more ⟨.hex [c, b, a], bs⟩ := rfl
  rw [hbytes, scan_of_run hfront, scan_single]
  simp [feed, hn, unit, push]

/-- After the digits of an escape that follows a leading half. -/
theorem scan_leadHex {ds : List Char} {n : Nat} (h : FourHex ds n) (high : Nat) (bs : List UInt8) :
    scan (feed mode) ⟨.lead high, bs⟩ (utf8 ('\\' :: 'u' :: ds)) =
      if 0xDC00 ≤ n ∧ n ≤ 0xDFFF then
        .more ((⟨.plain, bs⟩ : TextScan).push ((high - 0xD800) * 0x400 + (n - 0xDC00) + 0x10000))
      else .bad := by
  obtain ⟨a, b, c, d, hds, hn⟩ := bytes_of_fourHex h
  have hbytes : utf8 ('\\' :: 'u' :: ds) = [0x5C, 0x75, a, b, c] ++ [d] := by
    rw [utf8_cons, utf8_cons, hds]
    rfl
  have hfront : run (feed mode) ⟨.lead high, bs⟩ [0x5C, 0x75, a, b, c] = .more ⟨.leadHex high [c, b, a], bs⟩ := rfl
  rw [hbytes, scan_of_run hfront, scan_single]
  simp [feed, hn, push]

/-- An escape by a letter brings its character, -/
theorem run_letter {l c : Char} (h : (l, c) ∈ letters) (bs : List UInt8) :
    run (feed mode) ⟨.plain, bs⟩ (utf8 ['\\', l]) = .more ⟨.plain, (String.utf8EncodeChar c).reverse ++ bs⟩ := by
  simp only [letters, List.mem_cons, List.not_mem_nil, or_false, Prod.mk.injEq] at h
  rcases h with ⟨rfl, rfl⟩ | ⟨rfl, rfl⟩ | ⟨rfl, rfl⟩ | ⟨rfl, rfl⟩ | ⟨rfl, rfl⟩ | ⟨rfl, rfl⟩ | ⟨rfl, rfl⟩ |
    ⟨rfl, rfl⟩ <;> rfl

/-- and does not follow a leading half. -/
theorem scan_lead_letter {l c : Char} (h : (l, c) ∈ letters) (high : Nat) (bs : List UInt8) :
    scan (feed mode) ⟨.lead high, bs⟩ (utf8 ['\\', l]) = .bad := by
  simp only [letters, List.mem_cons, List.not_mem_nil, or_false, Prod.mk.injEq] at h
  rcases h with ⟨rfl, rfl⟩ | ⟨rfl, rfl⟩ | ⟨rfl, rfl⟩ | ⟨rfl, rfl⟩ | ⟨rfl, rfl⟩ | ⟨rfl, rfl⟩ | ⟨rfl, rfl⟩ |
    ⟨rfl, rfl⟩ <;> rfl

theorem run_plainChar {c : Char} (h : Plain c) (bs : List UInt8) :
    run (feed (.keep room)) ⟨.plain, bs⟩ (String.utf8EncodeChar c) =
      .more ⟨.plain, (String.utf8EncodeChar c).reverse ++ bs⟩ :=
  run_plain (plain_bytes h.1 h.2.1 h.2.2) bs

/-- **A text is read however it is spelled.** -/
theorem run_spelled {cs text : List Char} (h : Spelled cs text) (bs : List UInt8) :
    run (feed (.keep room)) ⟨.plain, bs⟩ (utf8 cs) = .more ⟨.plain, (utf8 text).reverse ++ bs⟩ := by
  induction h generalizing bs with
  | nil => rfl
  | @plain c cs text hc _ ih =>
    rw [utf8_cons, run_append (run_plainChar hc bs), ih, utf8_cons, List.reverse_append, List.append_assoc]
  | @letter l c cs text hl _ ih =>
    rw [show '\\' :: l :: cs = ['\\', l] ++ cs from rfl, utf8_append, run_append (run_letter hl bs), ih, utf8_cons,
      List.reverse_append, List.append_assoc]
  | @unit ds cs text n hds hn _ ih =>
    have hunit : run (feed (.keep room)) ⟨.plain, bs⟩ (utf8 ('\\' :: 'u' :: ds)) =
        .more ⟨.plain, (String.utf8EncodeChar (Char.ofNat n)).reverse ++ bs⟩ := by
      have htrail : ¬ (0xDC00 ≤ n ∧ n ≤ 0xDFFF) := by omega
      have hlead : ¬ (0xD800 ≤ n ∧ n ≤ 0xDBFF) := by omega
      refine run_of_scan ((scan_hex hds bs).trans ?_)
      unfold unit
      simp [Mode.keeps, htrail, hlead, push]
    rw [show '\\' :: 'u' :: (ds ++ cs) = '\\' :: 'u' :: ds ++ cs from rfl, utf8_append, run_append hunit, ih,
      utf8_cons, List.reverse_append, List.append_assoc]
  | @halves ds es cs text high low hds hes hhigh hlow _ ih =>
    have hlead : run (feed (.keep room)) ⟨.plain, bs⟩ (utf8 ('\\' :: 'u' :: ds)) = .more ⟨.lead high, bs⟩ := by
      have htrail : ¬ 0xDC00 ≤ high := by omega
      refine run_of_scan ((scan_hex hds bs).trans ?_)
      unfold unit
      simp [Mode.keeps, htrail, hhigh]
    have hpair : run (feed (.keep room)) ⟨.lead high, bs⟩ (utf8 ('\\' :: 'u' :: es)) = _ :=
      run_of_scan ((scan_leadHex hes high bs).trans (if_pos hlow))
    have hparts : '\\' :: 'u' :: (ds ++ '\\' :: 'u' :: (es ++ cs)) =
        ('\\' :: 'u' :: ds) ++ (('\\' :: 'u' :: es) ++ cs) := by simp
    rw [hparts, utf8_append, run_append hlead, utf8_append, run_append hpair, push, ih, utf8_cons, List.reverse_append,
      List.append_assoc]

/-- What stands up to the closing quote is read to some text, or it is refused. -/
def Settles (room : Nat) (s : TextScan) (bytes : List UInt8) : Prop :=
  scan (feed (.keep room)) s (bytes ++ [0x22]) = .bad ∨
    ∃ text, run (feed (.keep room)) s bytes = .more ⟨.plain, (utf8 text).reverse ++ s.bytes⟩

theorem settles_of_bad {s : TextScan} {front : List UInt8} (h : scan (feed (.keep room)) s front = .bad)
    (rest : List UInt8) : Settles room s (front ++ rest) := by
  refine .inl ?_
  rw [List.append_assoc]
  exact scan_bad_append h _

/-- What is read first comes first in the text. -/
theorem settles_append {s : TextScan} {place : Place} {front rest : List UInt8} (text : List Char)
    (hfront : run (feed (.keep room)) s front = .more ⟨place, (utf8 text).reverse ++ s.bytes⟩)
    (h : Settles room ⟨place, (utf8 text).reverse ++ s.bytes⟩ rest) : Settles room s (front ++ rest) := by
  rcases h with hbad | ⟨more, hmore⟩
  · refine .inl ?_
    rw [List.append_assoc, scan_of_run hfront]
    exact hbad
  · refine .inr ⟨text ++ more, ?_⟩
    rw [run_append hfront, hmore, utf8_append, List.reverse_append, List.append_assoc]

theorem utf8_singleton (c : Char) : utf8 [c] = String.utf8EncodeChar c := List.append_nil _

/-- What may stand between quotes settles, also after a leading half. -/
theorem settles_quotable {cs : List Char} (h : Quotable cs) (bs : List UInt8) :
    Settles room ⟨.plain, bs⟩ (utf8 cs) ∧ ∀ high, Settles room ⟨.lead high, bs⟩ (utf8 cs) := by
  induction h generalizing bs with
  | nil => exact ⟨.inr ⟨[], rfl⟩, fun high => .inl rfl⟩
  | @plain c cs hc _ ih =>
    rw [utf8_cons]
    refine ⟨settles_append [c] ?_ (ih _).1, fun high => settles_of_bad ?_ _⟩
    · rw [utf8_singleton]
      exact run_plainChar hc bs
    · -- Only a backslash follows a leading half.
      obtain ⟨b, rest, hb⟩ := List.exists_cons_of_ne_nil (utf8EncodeChar_ne_nil c)
      have hslash : b ≠ 0x5C := (plain_bytes hc.1 hc.2.1 hc.2.2 b (by rw [hb]; exact List.mem_cons_self ..)).2.1
      rw [hb]
      exact scan_cons_bad (by simp [feed, hslash]) rest
  | @letter l c cs hl _ ih =>
    rw [show '\\' :: l :: cs = ['\\', l] ++ cs from rfl, utf8_append]
    refine ⟨settles_append [c] ?_ (ih _).1, fun high => settles_of_bad (scan_lead_letter hl high bs) _⟩
    rw [utf8_singleton]
    exact run_letter hl bs
  | @unit ds cs n hds _ ih =>
    rw [show '\\' :: 'u' :: (ds ++ cs) = '\\' :: 'u' :: ds ++ cs from rfl, utf8_append]
    refine ⟨?_, fun high => ?_⟩
    · have hfront : scan (feed (.keep room)) ⟨.plain, bs⟩ (utf8 ('\\' :: 'u' :: ds)) = _ := scan_hex hds bs
      unfold unit at hfront
      simp only [Mode.keeps, Bool.not_true, Bool.false_eq_true, if_false] at hfront
      split at hfront
      · exact settles_of_bad hfront _
      · split at hfront
        · exact settles_append [] (run_of_scan hfront) ((ih _).2 n)
        · refine settles_append [Char.ofNat n] ?_ (ih _).1
          rw [utf8_singleton]
          exact run_of_scan hfront
    · have hfront : scan (feed (.keep room)) ⟨.lead high, bs⟩ (utf8 ('\\' :: 'u' :: ds)) = _ := scan_leadHex hds high bs
      split at hfront
      · refine settles_append [Char.ofNat ((high - 0xD800) * 0x400 + (n - 0xDC00) + 0x10000)] ?_ (ih _).1
        rw [utf8_singleton]
        exact run_of_scan hfront
      · exact settles_of_bad hfront _

/-- A string that is stepped over is passed. -/
theorem run_skip {cs : List Char} (h : Quotable cs) (bs : List UInt8) :
    ∃ passed, run (feed .skip) ⟨.plain, bs⟩ (utf8 cs) = .more ⟨.plain, passed⟩ := by
  induction h generalizing bs with
  | nil => exact ⟨bs, rfl⟩
  | @plain c cs hc _ ih =>
    have hstay : ∀ b ∈ String.utf8EncodeChar c, feed .skip ⟨.plain, bs⟩ b = .more ⟨.plain, bs⟩ := by
      intro b hb
      obtain ⟨hquote, hslash, hcontrol⟩ := plain_bytes hc.1 hc.2.1 hc.2.2 b hb
      have hlt : ¬ b < 0x20 := by
        rw [UInt8.lt_iff_toNat_lt]
        exact Nat.not_lt.mpr hcontrol
      simp [feed, hquote, hslash, hlt, Mode.keeps]
    rw [utf8_cons, run_append (run_stay hstay)]
    exact ih bs
  | @letter l c cs hl _ ih =>
    rw [show '\\' :: l :: cs = ['\\', l] ++ cs from rfl, utf8_append, run_append (run_letter hl bs)]
    exact ih _
  | @unit ds cs n hds _ ih =>
    rw [show '\\' :: 'u' :: (ds ++ cs) = '\\' :: 'u' :: ds ++ cs from rfl, utf8_append,
      run_append (run_of_scan (scan_hex hds bs))]
    exact ih _

/-- A string that has the text is read to it at its closing quote. -/
theorem run_quoted {cs : List Char} {t : String} (h : Spelled cs t.toList) :
    run (feed (.keep room)) .start (utf8 cs ++ [0x22]) = .done t := by
  have hinside : run (feed (.keep room)) .start (utf8 cs) = .more ⟨.plain, (utf8 t.toList).reverse ++ []⟩ :=
    run_spelled h []
  rw [run_append hinside, run_single, List.append_nil]
  exact feed_close t

/-- **Any string** is read up to its closing quote, unless a value is wanted and there is none. -/
theorem quoted_cases {cs : List Char} (h : Quotable cs) (mode : Mode) :
    (∃ t, run (feed mode) .start (utf8 cs ++ [0x22]) = .done t) ∨
      (mode.keeps = true ∧ scan (feed mode) .start (utf8 cs ++ [0x22]) = .bad) := by
  cases mode with
  | skip =>
    obtain ⟨passed, hpassed⟩ := run_skip h []
    refine .inl ⟨"", ?_⟩
    rw [start, run_append hpassed, run_single]
    rfl
  | keep room =>
    rcases (settles_quotable h []).1 with hbad | ⟨text, htext⟩
    · exact .inr ⟨rfl, hbad⟩
    · refine .inl ⟨String.ofList text, ?_⟩
      rw [start, run_append htext, run_single, List.append_nil]
      have hclose : feed (.keep room) ⟨.plain, (utf8 (String.ofList text).toList).reverse⟩ 0x22 = _ := feed_close _
      rwa [String.toList_ofList] at hclose

end TextScan

/-! ### Numbers -/

namespace NumberScan
variable {s : NumberScan}

/-- A number may end there. -/
def MayEnd (s : NumberScan) : Prop :=
  s.column = .zero ∨ s.column = .whole ∨ s.column = .fraction ∨ s.column = .exponent

/-- Where a number may end, it ends at any byte that does not go on with it. -/
theorem past_of_mayEnd (h : s.MayEnd) : ∃ k, ∀ e, ends e = true → s.feed e = .past k := by
  obtain ⟨k, hk⟩ : ∃ k, s.numeral? = some k := by
    rcases h with hc | hc | hc | hc <;> simp [numeral?, hc]
  refine ⟨k, fun e he => ?_⟩
  have hclose : s.feed e = s.close := by
    simp only [ends, Bool.not_eq_true', Bool.or_eq_false_iff] at he
    obtain ⟨⟨⟨hdigit, hpoint⟩, hsmall⟩, hcapital⟩ := he
    rcases h with hc | hc | hc | hc <;> simp [feed, hc, hdigit, hpoint, hsmall, hcapital]
  rw [hclose, close, hk]

/-- Digits go on with digits. -/
theorem run_digits {cs : List Char} (h : ∀ c ∈ cs, c.isDigit = true)
    (hcolumn : s.column = .whole ∨ s.column = .fraction ∨ s.column = .exponent) :
    ∃ t, run feed s (utf8 cs) = .more t ∧ t.column = s.column := by
  induction cs generalizing s with
  | nil => exact ⟨s, rfl, rfl⟩
  | cons c cs ih =>
    obtain ⟨b, hb, hdigit, -⟩ := byte_of_isDigit (h c (List.mem_cons_self ..))
    obtain ⟨t, ht, hsame⟩ : ∃ t, s.feed b = .more t ∧ t.column = s.column := by
      rcases hcolumn with hc | hc | hc <;> simp [feed, hc, hdigit]
    obtain ⟨u, hu, hlast⟩ := @ih t (fun c hc => h c (List.mem_cons_of_mem _ hc)) (hsame ▸ hcolumn)
    refine ⟨u, ?_, hlast.trans hsame⟩
    rw [utf8_cons, hb, List.singleton_append, run_cons ht]
    exact hu

/-- A first digit and more of them. -/
theorem run_firstDigit {cs : List Char} (h : Digits cs) {column : Column}
    (hcolumn : column = .whole ∨ column = .fraction ∨ column = .exponent)
    (hfirst : ∀ b, isDigit b = true → ∃ t, s.feed b = .more t ∧ t.column = column) :
    ∃ t, run feed s (utf8 cs) = .more t ∧ t.column = column := by
  obtain ⟨hne, hdigits⟩ := h
  cases cs with
  | nil => exact absurd rfl hne
  | cons c cs =>
    obtain ⟨b, hb, hdigit, -⟩ := byte_of_isDigit (hdigits c (List.mem_cons_self ..))
    obtain ⟨t, ht, hsame⟩ := hfirst b hdigit
    obtain ⟨u, hu, hlast⟩ := @run_digits t cs (fun c hc => hdigits c (List.mem_cons_of_mem _ hc)) (hsame ▸ hcolumn)
    refine ⟨u, ?_, hlast.trans hsame⟩
    rw [utf8_cons, hb, List.singleton_append, run_cons ht]
    exact hu

theorem run_fraction {cs : List Char} (h : Fraction cs) (hcolumn : s.column = .zero ∨ s.column = .whole) :
    ∃ t, run feed s (utf8 cs) = .more t ∧
      (t.column = .zero ∨ t.column = .whole ∨ t.column = .fraction) := by
  cases h with
  | none => exact ⟨s, rfl, hcolumn.imp_right .inl⟩
  | @some ds hds =>
    have hpoint : s.feed 0x2E = .more { s with column := .point } := by
      rcases hcolumn with hc | hc <;> simp [feed, hc, isDigit]
    obtain ⟨t, ht, hlast⟩ := @run_firstDigit { s with column := .point } ds hds .fraction (.inr (.inl rfl))
      (fun b hb => ⟨_, by simp only [feed, hb]; rfl, rfl⟩)
    refine ⟨t, ?_, .inr (.inr hlast)⟩
    rw [utf8_cons]
    exact (run_cons hpoint _).trans ht

theorem run_exponent {cs : List Char} (h : Exponent cs)
    (hcolumn : s.column = .zero ∨ s.column = .whole ∨ s.column = .fraction) :
    ∃ t, run feed s (utf8 cs) = .more t ∧ t.MayEnd := by
  cases h with
  | none =>
    refine ⟨s, rfl, ?_⟩
    rcases hcolumn with hc | hc | hc
    · exact .inl hc
    · exact .inr (.inl hc)
    · exact .inr (.inr (.inl hc))
  | @some mark sign ds hmark hsign hds =>
    obtain ⟨b, hb, hfirst⟩ : ∃ b, String.utf8EncodeChar mark = [b] ∧ s.feed b = .more { s with column := .mark } := by
      rcases hmark with rfl | rfl
      · exact ⟨0x65, rfl, by rcases hcolumn with hc | hc | hc <;> simp [feed, hc, isDigit]⟩
      · exact ⟨0x45, rfl, by rcases hcolumn with hc | hc | hc <;> simp [feed, hc, isDigit]⟩
    obtain ⟨t, ht, hmarked⟩ : ∃ t, run feed { s with column := .mark } (utf8 sign) = .more t ∧
        (t.column = .mark ∨ t.column = .markSign) := by
      rcases hsign with rfl | rfl | rfl
      · exact ⟨_, rfl, .inl rfl⟩
      · exact ⟨_, rfl, .inr rfl⟩
      · exact ⟨_, rfl, .inr rfl⟩
    obtain ⟨u, hu, hlast⟩ := @run_firstDigit t ds hds .exponent (.inr (.inr rfl)) (fun b hb => by
      have hother : b ≠ 0x2B ∧ b ≠ 0x2D := by
        constructor <;> rintro rfl <;> exact absurd hb (by decide)
      rcases hmarked with hc | hc <;> simp [feed, hc, hb, hother])
    refine ⟨u, ?_, .inr (.inr (.inr hlast))⟩
    rw [utf8_cons, hb, List.singleton_append, run_cons hfirst, utf8_append, run_append ht]
    exact hu

theorem run_wholePart {cs : List Char} (h : Whole cs) : ∃ b rest, utf8 cs = b :: rest ∧ isDigit b = true ∧
    ∀ s : NumberScan, s.column = columnAfter b →
      ∃ t, run feed s rest = .more t ∧ (t.column = .zero ∨ t.column = .whole) := by
  rcases h with rfl | ⟨⟨hne, hdigits⟩, hhead⟩
  · exact ⟨0x30, [], rfl, rfl, fun s hs => ⟨s, rfl, .inl hs⟩⟩
  · cases cs with
    | nil => exact absurd rfl hne
    | cons c cs =>
      obtain ⟨b, hb, hdigit, -, hzero⟩ := byte_of_isDigit (hdigits c (List.mem_cons_self ..))
      have hb0 : b ≠ 0x30 := fun he => hhead (congrArg some (hzero he))
      refine ⟨b, utf8 cs, by rw [utf8_cons, hb]; rfl, hdigit, fun s hs => ?_⟩
      have hwhole : s.column = .whole := by rw [hs, columnAfter]; simp [hb0]
      obtain ⟨t, ht, hsame⟩ := run_digits (fun c hc => hdigits c (List.mem_cons_of_mem _ hc)) (.inl hwhole)
      exact ⟨t, ht, .inr (hsame.trans hwhole)⟩

/-- After the first digit of a number, the rest of it. -/
theorem run_rest {whole fraction exponent : List Char} (hwhole : Whole whole) (hfraction : Fraction fraction)
    (hexponent : Exponent exponent) : ∃ b rest, utf8 (whole ++ (fraction ++ exponent)) = b :: rest ∧
      isDigit b = true ∧ ∀ s : NumberScan, s.column = columnAfter b → ∃ t, run feed s rest = .more t ∧ t.MayEnd := by
  obtain ⟨b, rest, hbytes, hdigit, hrest⟩ := run_wholePart hwhole
  refine ⟨b, rest ++ utf8 (fraction ++ exponent), by rw [utf8_append, hbytes]; rfl, hdigit, fun s hs => ?_⟩
  obtain ⟨t, ht, hcolumn⟩ := hrest s hs
  obtain ⟨u, hu, hcolumn⟩ := run_fraction hfraction hcolumn
  obtain ⟨v, hv, hend⟩ := run_exponent hexponent hcolumn
  exact ⟨v, by rw [run_append ht, utf8_append, run_append hu, hv], hend⟩

/-- **Any number** is scanned to where it may end. -/
theorem run_numeric {cs : List Char} (h : Numeric cs) : ∃ b rest s t k, utf8 cs = b :: rest ∧
    (∀ mode frames, Walk.enter mode frames b = some ⟨frames, .number s⟩) ∧ run feed s rest = .more t ∧
    ∀ e, ends e = true → t.feed e = .past k := by
  cases h with
  | positive hwhole hfraction hexponent =>
    obtain ⟨b, rest, hbytes, hdigit, hrest⟩ := run_rest hwhole hfraction hexponent
    obtain ⟨t, ht, hend⟩ := hrest (.ofDigit b) rfl
    obtain ⟨k, hk⟩ := past_of_mayEnd hend
    exact ⟨b, rest, .ofDigit b, t, k, hbytes, Walk.enter_digit hdigit, ht, hk⟩
  | negative hwhole hfraction hexponent =>
    obtain ⟨b, rest, hbytes, hdigit, hrest⟩ := run_rest hwhole hfraction hexponent
    have hfirst : feed .ofSign b = .more { ofSign with column := columnAfter b, whole := [b.toNat - 0x30] } := by
      simp [feed, ofSign, hdigit, columnAfter]
    obtain ⟨t, ht, hend⟩ := hrest { ofSign with column := columnAfter b, whole := [b.toNat - 0x30] } rfl
    obtain ⟨k, hk⟩ := past_of_mayEnd hend
    refine ⟨0x2D, b :: rest, .ofSign, t, k, ?_, fun _ _ => rfl, (run_cons hfirst rest).trans ht, hk⟩
    rw [utf8_cons, hbytes]
    rfl

end NumberScan

end SwitchBench.Json
