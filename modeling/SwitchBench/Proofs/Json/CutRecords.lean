import SwitchBench.Proofs.Json.CutValues

/-! Records that are cut off.

The end of a record is seen at one byte (`end_of_read`). Where the bytes stop short of it
the reader says that the record is cut off, and nothing worse, as long as no member is
stepped over (`finish_of_cut`): a value that is stepped over may be a number, and a number
that cannot end where the bytes end counts as malformed there.

What a byte does to a reader is said once (`Moves`, `Comes`); what is kept along the bytes
is derived from that. -/
namespace SwitchBench.Json

namespace Record
variable {fields : List Field}

/-- Where a byte leads a reader that goes on. -/
inductive Moves (fields : List Field) (b : UInt8) : Stage → Stage → Prop
  | blank {stage : Stage} (space : isSpace b = true) : Moves fields b stage stage
  /-- The record begins, -/
  | opened {stage : Stage} (h : stage = .member ∨ stage = .item) : Moves fields b .start stage
  /-- or a value that is none does. -/
  | strayed {w : Walk} : Moves fields b .start (.stray w)
  | stray {w u : Walk} : Moves fields b (.stray w) (.stray u)
  | quoted {stage : Stage} (h : stage = .member ∨ stage = .name) : Moves fields b stage (.nameText .start)
  | spelt {t u : TextScan} : Moves fields b (.nameText t) (.nameText u)
  | named {t : TextScan} {n : String} (h : t.feed (.keep room) b = .done n ∨ t.feed (.keep room) b = .past n) :
    Moves fields b (.nameText t) (.colon (fields.findIdx? fun f => f.name == n))
  | pointed {target : Option Nat} : Moves fields b (.colon target) (.due target)
  | entered {stage : Stage} {target : Option Nat} {w : Walk}
    (h : stage = .due target ∨ stage = .item ∧ target = some 0)
    (hw : Walk.enter (mode target) [] b = some w) : Moves fields b stage (.inside target w)
  | walked {target : Option Nat} {w u : Walk} (h : w.feed (mode target) b = .more u) :
    Moves fields b (.inside target w) (.inside target u)
  | stored {target : Option Nat} {w : Walk} : Moves fields b (.inside target w) .after
  | parted {stage next : Stage} (h : stage = .after ∨ ∃ target w, stage = .inside target w)
    (hnext : next = .name ∨ ∃ i, next = .due (some i)) : Moves fields b stage next

/-- What a byte comes to. -/
inductive Comes (fields : List Field) (s : State) (b : UInt8) : Fed State (List (Option Json)) → Prop
  | more {t : State} (h : Moves fields b s.stage t.stage) : Comes fields s b (.more t)
  /-- The record ends, with a closing bracket. -/
  | done {slots : List (Option Json)} (bracket : b = 0x7D ∨ b = 0x5D) (h : ∀ w, s.stage ≠ .stray w) :
    Comes fields s b (.done slots)
  | bad : Comes fields s b .bad

theorem comes_close {s t : State} {b : UInt8} (bracket : b = 0x7D ∨ b = 0x5D)
    (h : ∀ w, s.stage ≠ .stray w) : Comes fields s b (close fields t) := by
  unfold close
  split
  · exact .done bracket h
  · exact .bad

theorem comes_separate {s t : State} {b : UInt8}
    (h : s.stage = .after ∨ ∃ target w, s.stage = .inside target w) (ht : t.stage = .after) :
    Comes fields s b (separate fields t b) := by
  have hstray : ∀ w, s.stage ≠ .stray w := by
    rcases h with h | ⟨target, w, h⟩ <;> simp [h]
  unfold separate
  repeat' split
  next hspace =>
    rcases h with h | ⟨target, w, h⟩
    · exact .more (by rw [h, ht]; exact .blank hspace)
    · exact .more (by rw [h, ht]; exact .stored)
  · exact .more (.parted h (.inl rfl))
  next hb => exact comes_close (.inl (beq_iff_eq.mp hb)) hstray
  · exact .bad
  next hb => exact comes_close (.inr (beq_iff_eq.mp hb)) hstray
  · exact .more (.parted h (.inr ⟨_, rfl⟩))
  · exact .bad

theorem comes_enter {s t : State} {target : Option Nat} {b : UInt8}
    (h : s.stage = .due target ∨ s.stage = .item ∧ target = some 0) :
    Comes fields s b (enter fields t target b) := by
  unfold enter
  dsimp only
  split
  · exact .bad
  · split
    next w hw => exact .more (.entered h hw)
    · exact .bad

theorem stage_of_store {s t : State} {target : Option Nat} {v : Json}
    (h : store fields s target v = some t) : t.stage = .after := by
  unfold store at h
  repeat' split at h
  all_goals cases h <;> rfl

/-- **What a byte comes to**, from every place. -/
theorem comes_of_feed {s : State} {b : UInt8} {r : Fed State (List (Option Json))}
    (h : feed fields s b = r) : Comes fields s b r := by
  subst h
  obtain ⟨layout, slots, stage⟩ := s
  unfold feed
  cases stage <;> dsimp only
  case start =>
    repeat' split
    · exact .more (.blank ‹_›)
    · exact .more (.opened (.inl rfl))
    · exact .more (.opened (.inr rfl))
    · exact .more .strayed
    · exact .bad
  case stray w =>
    split
    · exact .more .stray
    · exact .bad
  case member =>
    repeat' split
    · exact .more (.blank ‹_›)
    next hb => exact comes_close (.inl (beq_iff_eq.mp hb)) (by simp)
    · exact .more (.quoted (.inl rfl))
    · exact .bad
  case name =>
    repeat' split
    · exact .more (.blank ‹_›)
    · exact .more (.quoted (.inr rfl))
    · exact .bad
  case nameText t =>
    split
    · exact .more .spelt
    next n hn =>
      split
      · exact .bad
      · exact .more (.named (.inl hn))
    next n hn =>
      split
      · exact .bad
      · exact .more (.named (.inr hn))
    · exact .bad
  case colon target =>
    repeat' split
    · exact .more (.blank ‹_›)
    · exact .more .pointed
    · exact .bad
  case item =>
    repeat' split
    · exact .more (.blank ‹_›)
    next hb => exact comes_close (.inr (beq_iff_eq.mp hb)) (by simp)
    · exact comes_enter (.inr ⟨rfl, rfl⟩)
  case due target =>
    split
    · exact .more (.blank ‹_›)
    · exact comes_enter (.inl rfl)
  case inside target w =>
    split
    next u hu => exact .more (.walked hu)
    next v hv =>
      split
      next t ht => exact .more (by rw [stage_of_store ht]; exact .stored)
      · exact .bad
    next v hv =>
      split
      next t ht => exact comes_separate (.inr ⟨target, w, rfl⟩) (stage_of_store ht)
      · exact .bad
    · exact .bad
  case after => exact comes_separate (.inl rfl) rfl

/-! ### Runs -/

theorem advance_cons {s : State} {b : UInt8} {rest : List UInt8} {t : State}
    (h : advance fields s (b :: rest) = .more t) :
    ∃ u, feed fields s b = .more u ∧ advance fields u rest = .more t := by
  unfold advance at h
  cases hu : feed fields s b with
  | more u => rw [hu] at h; exact ⟨u, rfl, h⟩
  | done _ | past _ | bad => rw [hu] at h; cases h

theorem moves_of_feed {s t : State} {b : UInt8} (h : feed fields s b = .more t) :
    Moves fields b s.stage t.stage := by
  cases comes_of_feed h with
  | more hm => exact hm

theorem bracket_of_done {s : State} {b : UInt8} {slots : List (Option Json)}
    (h : feed fields s b = .done slots) : b = 0x7D ∨ b = 0x5D := by
  cases comes_of_feed h with
  | done hbracket _ => exact hbracket

/-- What every step preserves is kept by a reader that goes on. -/
theorem keeps_of_advance {P : State → Prop} (hstep : ∀ s t b, P s → feed fields s b = .more t → P t)
    {s t : State} (h : P s) {bytes : List UInt8} (ht : advance fields s bytes = .more t) : P t := by
  induction bytes generalizing s with
  | nil => cases ht; exact h
  | cons b rest ih =>
    obtain ⟨u, hb, hu⟩ := advance_cons ht
    exact ih (hstep s u b h hb) hu

/-! ### White space -/

theorem blank_of_stage_start {bytes : List UInt8} {s t : State} (h : advance fields s bytes = .more t)
    (ht : t.stage = .start) : s.stage = .start ∧ ∀ b ∈ bytes, isSpace b = true := by
  induction bytes generalizing s with
  | nil => cases h; exact ⟨ht, fun _ hb => absurd hb List.not_mem_nil⟩
  | cons b rest ih =>
    obtain ⟨u, hb, hu⟩ := advance_cons h
    obtain ⟨hstart, hrest⟩ := ih hu
    have hmoves := moves_of_feed hb
    rw [hstart] at hmoves
    generalize hs : s.stage = stage at hmoves
    cases hmoves with
    | blank hspace => exact ⟨rfl, List.forall_mem_cons.mpr ⟨hspace, hrest⟩⟩
    | opened h => rcases h with h | h <;> cases h
    | parted _ hnext => rcases hnext with h | ⟨i, h⟩ <;> cases h

theorem advance_blank (bytes : List UInt8) (h : ∀ b ∈ bytes, isSpace b = true) :
    advance fields (start fields) bytes = .more (start fields) := by
  induction bytes with
  | nil => rfl
  | cons b rest ih =>
    obtain ⟨hb, hrest⟩ := List.forall_mem_cons.mp h
    have hfeed : feed fields (start fields) b = .more (start fields) := by
      simp [feed, start, hb]
    rw [advance, hfeed]
    exact ih hrest

/-! ### Records that have begun -/

/-- A value that is no record never becomes one. -/
theorem advance_stray {s : State} {w : Walk} (h : s.stage = .stray w) (bytes : List UInt8)
    (slots : List (Option Json)) : advance fields s bytes ≠ .done slots := by
  induction bytes generalizing s w with
  | nil => exact fun h => by cases h
  | cons b rest ih =>
    unfold advance
    cases hb : feed fields s b with
    | bad => simp
    | past _ => simp
    | done _ =>
      cases comes_of_feed hb with
      | done _ hstray => exact absurd h (hstray w)
    | more u =>
      have hmoves := moves_of_feed hb
      rw [h] at hmoves
      generalize hu : u.stage = stage at hmoves
      cases hmoves with
      | blank => exact ih hu
      | stray => exact ih hu
      | quoted h => rcases h with h | h <;> cases h
      | entered h => rcases h with h | ⟨h, -⟩ <;> cases h
      | parted h => rcases h with h | ⟨_, _, h⟩ <;> cases h

/-- The value that is being read is sound. -/
def Sound (s : State) : Prop := ∀ target w, s.stage = .inside target w → w.Sound

theorem Sound.feed {s t : State} {b : UInt8} (h : Sound s) (ht : feed fields s b = .more t) : Sound t := by
  intro target w hw
  have hmoves := moves_of_feed ht
  rw [hw] at hmoves
  generalize hs : s.stage = stage at hmoves
  cases hmoves with
  | blank => exact h _ _ hs
  | opened h => rcases h with h | h <;> cases h
  | entered _ henter => exact Walk.sound_enter henter
  | walked hwalk => exact (h _ _ hs).feed hwalk
  | parted _ hnext => rcases hnext with h | ⟨i, h⟩ <;> cases h

theorem accepts_of_store {s t : State} {i : Nat} {v : Json} (h : store fields s (some i) v = some t) :
    ∃ f, fields[i]? = some f ∧ f.accepts v = true := by
  unfold store at h
  dsimp only at h
  split at h
  next f hf =>
    split at h
    next hv => exact ⟨f, hf, hv⟩
    · cases h
  · cases h

/-- A value that ends in a field, and does not end the reading, is one that the field accepts. -/
theorem accepts_of_feed {s : State} {i : Nat} {w : Walk} {b : UInt8} {v : Json}
    (h : s.stage = .inside (some i) w) (hv : w.feed (.keep room) b = .done v ∨ w.feed (.keep room) b = .past v)
    (hgood : feed fields s b ≠ .bad) : ∃ f, fields[i]? = some f ∧ f.accepts v = true := by
  cases hstore : store fields s (some i) v with
  | some t => exact accepts_of_store hstore
  | none =>
    refine absurd ?_ hgood
    rcases hv with hv | hv <;> simp [feed, h, mode, hv, hstore]

/-- A reader inside the value of a field that comes to the end of a record has been led to
a value that the field accepts. -/
theorem yields_of_advance {s : State} {i : Nat} {w : Walk} (h : s.stage = .inside (some i) w)
    {bytes : List UInt8} {slots : List (Option Json)} (hdone : advance fields s bytes = .done slots) :
    ∃ f v, fields[i]? = some f ∧ f.accepts v = true ∧ Yields (Walk.feed (.keep room)) v w := by
  induction bytes generalizing s w with
  | nil => cases hdone
  | cons b rest ih =>
    have hgood : feed fields s b ≠ .bad := fun hbad => by
      rw [advance, hbad] at hdone
      cases hdone
    cases hw : w.feed (.keep room) b with
    | more u =>
      have hfeed : feed fields s b = .more { s with stage := .inside (some i) u } := by
        simp [feed, h, mode, hw]
      rw [advance, hfeed] at hdone
      obtain ⟨f, v, hf, hv, hyields⟩ := ih rfl hdone
      exact ⟨f, v, hf, hv, .step hw hyields⟩
    | done v =>
      obtain ⟨f, hf, hv⟩ := accepts_of_feed h (.inl hw) hgood
      exact ⟨f, v, hf, hv, .last (.inl hw)⟩
    | past v =>
      obtain ⟨f, hf, hv⟩ := accepts_of_feed h (.inr hw) hgood
      exact ⟨f, v, hf, hv, .last (.inr hw)⟩
    | bad => exact absurd (by simp [feed, h, mode, hw]) hgood

/-! ### Names -/

/-- The name that ends with a byte. -/
def name? (s : State) (b : UInt8) : Option String :=
  match s.stage with
  | .nameText t => match t.feed (.keep room) b with
    | .done n | .past n => some n
    | .more _ | .bad => none
  | _ => none

/-- The names of members that a reader comes to. -/
def names (fields : List Field) (s : State) : List UInt8 → List String
  | [] => []
  | b :: rest => (name? s b).toList ++ match feed fields s b with
    | .more t => names fields t rest
    | .done _ | .past _ | .bad => []

/-- Bytes that name no member other than the fields. -/
def Known (fields : List Field) (s : State) (bytes : List UInt8) : Prop :=
  ∀ n ∈ names fields s bytes, ∃ f ∈ fields, f.name = n

/-- The value that is read or due, if any, is for a field. -/
def Aimed (s : State) : Prop :=
  s.stage ≠ .colon none ∧ s.stage ≠ .due none ∧ ∀ w, s.stage ≠ .inside none w

theorem Aimed.feed {s t : State} {b : UInt8} (h : Aimed s) (ht : feed fields s b = .more t)
    (hname : ∀ n, name? s b = some n → ∃ f ∈ fields, f.name = n) : Aimed t := by
  obtain ⟨hcolon, hdue, hinside⟩ := h
  have hmoves := moves_of_feed ht
  unfold Aimed
  generalize hs : s.stage = stage at hmoves hcolon hdue hinside
  generalize t.stage = next at hmoves
  cases hmoves with
  | blank => exact ⟨hcolon, hdue, hinside⟩
  | opened h => rcases h with rfl | rfl <;> simp
  | strayed | stray | quoted | spelt | stored => simp
  | @named t n h =>
    obtain ⟨f, hf, hn⟩ := hname n (by rcases h with h | h <;> simp [name?, hs, h])
    refine ⟨fun he => ?_, by simp, by simp⟩
    have hnone := List.findIdx?_eq_none_iff.mp (Stage.colon.inj he) f hf
    simp [hn] at hnone
  | pointed => exact ⟨by simp, fun he => hcolon (by rw [Stage.due.inj he]), by simp⟩
  | @entered stage target w h =>
    refine ⟨by simp, by simp, fun u he => ?_⟩
    rcases h with rfl | ⟨-, rfl⟩
    · exact hdue (by rw [(Stage.inside.inj he).1])
    · cases (Stage.inside.inj he).1
  | @walked target w u h => exact ⟨by simp, by simp, fun v he => hinside w (by rw [(Stage.inside.inj he).1])⟩
  | parted _ hnext => rcases hnext with rfl | ⟨i, rfl⟩ <;> simp

theorem Aimed.advance {s t : State} (h : Aimed s) {bytes : List UInt8}
    (ht : advance fields s bytes = .more t) (hknown : Known fields s bytes) : Aimed t := by
  induction bytes generalizing s with
  | nil => cases ht; exact h
  | cons b rest ih =>
    obtain ⟨u, hb, hu⟩ := advance_cons ht
    unfold Known names at hknown
    rw [hb] at hknown
    refine ih (h.feed hb fun n hn => hknown n ?_) hu fun n hn => hknown n ?_
    · simp [hn]
    · exact List.mem_append_right _ hn

theorem names_subset (s : State) (front back : List UInt8) :
    names fields s front ⊆ names fields s (front ++ back) := by
  induction front generalizing s with
  | nil => exact List.nil_subset _
  | cons b rest ih =>
    rw [List.cons_append, names, names]
    cases feed fields s b with
    | more t =>
      exact List.append_subset.mpr ⟨List.subset_append_left _ _,
        List.Subset.trans (ih t) (List.subset_append_right _ _)⟩
    | done _ | past _ | bad => exact List.Subset.refl _

theorem Known.front {s : State} {front back : List UInt8} (h : Known fields s (front ++ back)) :
    Known fields s front := fun n hn => h n (names_subset s front back hn)

/-! ### The end of a record -/

/-- The end of a record is seen by the reader at one byte. -/
theorem exists_end {s : State} {bytes : List UInt8} {slots : List (Option Json)}
    (h : advance fields s bytes = .done slots) : ∃ front b back t, bytes = front ++ b :: back ∧
      advance fields s front = .more t ∧ feed fields t b = .done slots := by
  induction bytes generalizing s with
  | nil => cases h
  | cons b rest ih =>
    unfold advance at h
    cases hb : feed fields s b with
    | more u =>
      rw [hb] at h
      obtain ⟨front, c, back, t, rfl, ht, hdone⟩ := ih h
      exact ⟨b :: front, c, back, t, rfl, by rw [advance, hb]; exact ht, hdone⟩
    | done _ => rw [hb] at h; exact ⟨[], b, rest, s, rfl, rfl, hb.trans h⟩
    | past _ | bad => rw [hb] at h; cases h

/-- A reader that goes on to the end of some bytes goes on at every cut of them. -/
theorem advance_take {s t : State} {bytes : List UInt8} (h : advance fields s bytes = .more t) (k : Nat) :
    ∃ u, advance fields s (bytes.take k) = .more u ∧ advance fields u (bytes.drop k) = .more t := by
  have happend := advance_append fields s (bytes.take k) (bytes.drop k)
  rw [List.take_append_drop, h] at happend
  cases hu : advance fields s (bytes.take k) with
  | more u => rw [hu] at happend; exact ⟨u, rfl, happend.symm⟩
  | done _ | past _ | bad => rw [hu] at happend; cases happend

theorem advance_ne_past (s : State) (bytes : List UInt8) (slots : List (Option Json)) :
    advance fields s bytes ≠ .past slots := by
  induction bytes generalizing s with
  | nil => exact fun h => by cases h
  | cons b rest ih =>
    unfold advance
    cases hb : feed fields s b with
    | more t => exact ih t
    | done _ | bad => simp
    | past _ => cases comes_of_feed hb

/-- **A record that is read ends at one place**, with a bracket: the reader goes on, and can be
led to the same record, as long as the bytes stop short of it. -/
theorem end_of_read {bytes : List UInt8} {slots : List (Option Json)}
    (h : read fields bytes = .record slots) : ∃ front b back, bytes = front ++ b :: back ∧
      (b = 0x7D ∨ b = 0x5D) ∧ advance fields (start fields) (front ++ [b]) = .done slots ∧
      ∀ k, ∃ s rest, advance fields (start fields) (front.take k) = .more s ∧
        advance fields s rest = .done slots := by
  have hdone : advance fields (start fields) bytes = .done slots := by
    unfold read at h
    cases hadvance : advance fields (start fields) bytes with
    | more s => rw [hadvance] at h; exact absurd h (finish_ne_record s slots)
    | done _ => rw [hadvance] at h; rw [Outcome.record.inj h]
    | past _ => exact absurd hadvance (advance_ne_past _ _ _)
    | bad => rw [hadvance] at h; cases h
  obtain ⟨front, b, back, t, rfl, ht, hlast⟩ := exists_end hdone
  have hend : advance fields t [b] = .done slots := by rw [advance, hlast]
  refine ⟨front, b, back, rfl, bracket_of_done hlast, ?_, fun k => ?_⟩
  · rw [advance_append, ht]
    exact hend
  · obtain ⟨u, hu, hrest⟩ := advance_take ht k
    refine ⟨u, front.drop k ++ [b], hu, ?_⟩
    rw [advance_append, hrest]
    exact hend

/-- **A record that is cut off is missed**, unless it has members that are no fields. -/
theorem finish_of_cut (steady : ∀ f ∈ fields, f.Steady) {front back : List UInt8} {s : State}
    {slots : List (Option Json)} (hs : advance fields (start fields) front = .more s)
    (hback : advance fields s back = .done slots) (hbegun : ¬ ∀ b ∈ front, isSpace b = true) :
    finish fields s = .cut ∨ finish fields s = .malformed ∧ ¬ Known fields (start fields) front := by
  have hsound : Sound s := keeps_of_advance (fun _ _ _ => Sound.feed) (fun _ _ h => by cases h) hs
  cases hstage : s.stage with
  | start => exact absurd (blank_of_stage_start hs hstage).2 hbegun
  | stray w => exact absurd hback (advance_stray hstage back slots)
  | inside target w =>
    cases target with
    | none =>
      have hunknown : ¬ Known fields (start fields) front := fun hknown =>
        (Aimed.advance (by simp [Aimed, start]) hs hknown).2.2 w hstage
      simp only [finish, hstage]
      split
      · exact .inl rfl
      · exact .inl rfl
      · exact .inr ⟨rfl, hunknown⟩
    | some i =>
      obtain ⟨f, v, hf, hv, hyields⟩ := yields_of_advance hstage hback
      refine .inl ?_
      rcases Walk.finish_of_yields (steady f (List.mem_of_getElem? hf)) hv (hsound _ _ hstage) hyields with
        hcut | ⟨u, hvalue, hu⟩
      · simp [finish, hstage, mode, hcut]
      · simp [finish, hstage, mode, hvalue, store, hf, hu]
  | _ => exact .inl (by simp [finish, hstage])

end Record

end SwitchBench.Json
