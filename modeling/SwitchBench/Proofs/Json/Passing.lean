import SwitchBench.Proofs.Json.Spellings

/-! Passing over values.

Any well-formed value is read up to its end wherever it stands, with whatever white space inside it and
nested to any depth, if it is stepped over. Where a value is wanted it may be refused, for a string
without a text, a number out of range or too many levels, but then it is refused before it has ended
(`Walk.carries_of_wellFormed`). -/
namespace SwitchBench.Json

/-! ### What is seen one byte late -/

section
variable {σ α : Type} {feed : σ → UInt8 → Fed σ α} {s t u : σ} {front back : List UInt8} {e : UInt8}

/-- Some bytes lead from one state to another, as far as the byte after them tells. -/
def Leads (feed : σ → UInt8 → Fed σ α) (s : σ) (bytes : List UInt8) (t : σ) : Prop :=
  ∃ u, run feed s bytes = .more u ∧ ∀ e, NumberScan.ends e = true → feed u e = feed t e

/-- Some bytes are refused, at the byte after them at the latest. -/
def Fails (feed : σ → UInt8 → Fed σ α) (s : σ) (bytes : List UInt8) : Prop :=
  ∀ e, NumberScan.ends e = true → scan feed s (bytes ++ [e]) = .bad

theorem leads_of_run (h : run feed s front = .more t) : Leads feed s front t := ⟨t, h, fun _ _ => rfl⟩

theorem Leads.run_eq (h : Leads feed s front t) (he : NumberScan.ends e = true) (more : List UInt8) :
    run feed s (front ++ e :: more) = run feed t (e :: more) := by
  obtain ⟨u, hu, hsame⟩ := h
  rw [run_append hu, run, run, hsame e he]

theorem Leads.scan_eq (h : Leads feed s front t) (he : NumberScan.ends e = true) (more : List UInt8) :
    scan feed s (front ++ e :: more) = scan feed t (e :: more) := by
  obtain ⟨u, hu, hsame⟩ := h
  rw [scan_of_run hu, scan, scan, hsame e he]

theorem Leads.before (hfront : run feed s front = .more t) (h : Leads feed t back u) :
    Leads feed s (front ++ back) u := by
  obtain ⟨v, hv, hsame⟩ := h
  exact ⟨v, by rw [run_append hfront, hv], hsame⟩

theorem Leads.cons {b : UInt8} (hb : feed s b = .more t) (h : Leads feed t back u) : Leads feed s (b :: back) u :=
  .before ((run_single s b).trans hb) h

theorem Leads.append (h : Leads feed s front t) (he : NumberScan.ends e = true) {more : List UInt8}
    (hmore : Leads feed t (e :: more) u) : Leads feed s (front ++ e :: more) u := by
  obtain ⟨v, hv, hsame⟩ := hmore
  exact ⟨v, by rw [h.run_eq he, hv], hsame⟩

theorem Fails.scan_eq (h : Fails feed s front) (he : NumberScan.ends e = true) (more : List UInt8) :
    scan feed s (front ++ e :: more) = .bad := by
  rw [show front ++ e :: more = (front ++ [e]) ++ more by simp]
  exact scan_bad_append (h e he) more

theorem Fails.append (h : Fails feed s front) (he : NumberScan.ends e = true) (more : List UInt8) :
    Fails feed s (front ++ e :: more) := by
  intro f _
  exact scan_bad_append (h.scan_eq he more) [f]

theorem Fails.before (hfront : run feed s front = .more t) (h : Fails feed t back) : Fails feed s (front ++ back) := by
  intro e he
  rw [List.append_assoc, scan_of_run hfront]
  exact h e he

theorem Fails.cons {b : UInt8} (hb : feed s b = .more t) (h : Fails feed t back) : Fails feed s (b :: back) :=
  .before ((run_single s b).trans hb) h

theorem Leads.fails (h : Leads feed s front t) (he : NumberScan.ends e = true) {more : List UInt8}
    (hmore : Fails feed t (e :: more)) : Fails feed s (front ++ e :: more) := by
  intro f hf
  rw [List.append_assoc, List.cons_append, h.scan_eq he]
  exact hmore f hf

theorem fails_of_scan (h : scan feed s front = .bad) : Fails feed s front := fun e _ => scan_bad_append h [e]

theorem ends_of_isSpace {b : UInt8} (h : isSpace b = true) : NumberScan.ends b = true := by
  simp only [isSpace, Bool.or_eq_true, beq_iff_eq] at h
  rcases h with ((rfl | rfl) | rfl) | rfl <;> rfl

theorem ends_of_blank {x : List Char} (hx : Blank x) {b : UInt8} {rest : List UInt8} (h : utf8 x = b :: rest) :
    NumberScan.ends b = true :=
  ends_of_isSpace (isSpace_of_blank hx b (by rw [h]; exact List.mem_cons_self ..))

/-- White space after a value does not matter. -/
theorem Leads.blank (h : Leads feed s front t) (hspace : ∀ b, isSpace b = true → feed t b = .more t) {x : List Char}
    (hx : Blank x) : Leads feed s (front ++ utf8 x) t := by
  cases hbytes : utf8 x with
  | nil => rwa [List.append_nil]
  | cons b rest =>
    refine h.append (ends_of_blank hx hbytes) ?_
    rw [← hbytes]
    exact leads_of_run (run_blank hspace hx)

theorem Fails.blank (h : Fails feed s front) {x : List Char} (hx : Blank x) : Fails feed s (front ++ utf8 x) := by
  cases hbytes : utf8 x with
  | nil => rwa [List.append_nil]
  | cons b rest => exact h.append (ends_of_blank hx hbytes) rest

/-- Some bytes lead to one of some states, or they are refused where a value is wanted. -/
def Gets (feed : σ → UInt8 → Fed σ α) (wanted : Bool) (s : σ) (bytes : List UInt8) (ends : σ → Prop) : Prop :=
  (∃ t, ends t ∧ Leads feed s bytes t) ∨ (wanted = true ∧ Fails feed s bytes)

variable {wanted : Bool} {P Q : σ → Prop}

theorem Gets.before (hfront : run feed s front = .more t) (h : Gets feed wanted t back P) :
    Gets feed wanted s (front ++ back) P :=
  h.imp (fun ⟨u, hu, hleads⟩ => ⟨u, hu, hleads.before hfront⟩) fun ⟨hwanted, hfails⟩ => ⟨hwanted, hfails.before hfront⟩

theorem Gets.cons {b : UInt8} (hb : feed s b = .more t) (h : Gets feed wanted t back P) :
    Gets feed wanted s (b :: back) P :=
  h.before ((run_single s b).trans hb)

theorem Gets.append (h : Gets feed wanted s front P) (he : NumberScan.ends e = true) {more : List UInt8}
    (hmore : ∀ t, P t → Gets feed wanted t (e :: more) Q) : Gets feed wanted s (front ++ e :: more) Q := by
  rcases h with ⟨t, ht, hleads⟩ | ⟨hwanted, hfails⟩
  · exact (hmore t ht).imp (fun ⟨u, hu, hrest⟩ => ⟨u, hu, hleads.append he hrest⟩)
      fun ⟨hwanted, hrest⟩ => ⟨hwanted, hleads.fails he hrest⟩
  · exact .inr ⟨hwanted, hfails.append he more⟩

theorem Gets.mono (h : Gets feed wanted s front P) (hPQ : ∀ t, P t → Q t) : Gets feed wanted s front Q :=
  h.imp_left fun ⟨t, ht, hleads⟩ => ⟨t, hPQ t ht, hleads⟩

theorem Gets.blank (h : Gets feed wanted s front P)
    (hspace : ∀ t, P t → ∀ b, isSpace b = true → feed t b = .more t) {x : List Char} (hx : Blank x) :
    Gets feed wanted s (front ++ utf8 x) P :=
  h.imp (fun ⟨t, ht, hleads⟩ => ⟨t, ht, hleads.blank (hspace t ht) hx⟩)
    fun ⟨hwanted, hfails⟩ => ⟨hwanted, hfails.blank hx⟩

end

namespace Walk
variable {mode : Mode} {frames : List Frame}

/-! ### One value -/

/-- A value is read inside frames: with its last byte or, if it is a number, with the byte after it. -/
inductive Brings (mode : Mode) (frames : List Frame) (v : Json) : List UInt8 → Prop
  | closed {b : UInt8} {rest : List UInt8} {w : Walk} (entered : enter mode frames b = some w)
    (delivered : run (feed mode) w rest = deliver mode v frames) : Brings mode frames v (b :: rest)
  | counted {b : UInt8} {rest : List UInt8} {w : Walk} {s : NumberScan} {k : Numeral}
    (entered : enter mode frames b = some w) (scanned : run (feed mode) w rest = .more ⟨frames, .number s⟩)
    (ended : ∀ e, NumberScan.ends e = true → s.feed e = .past k)
    (value : (if mode.keeps then k.value?.map Json.number else some .null) = some v) :
    Brings mode frames v (b :: rest)

/-- A value is refused inside frames. -/
inductive Balks (mode : Mode) (frames : List Frame) : List UInt8 → Prop
  | tooDeep {b : UInt8} {rest : List UInt8} (bracket : b = 0x5B ∨ b = 0x7B) (refused : enter mode frames b = none) :
    Balks mode frames (b :: rest)
  | inside {b : UInt8} {rest : List UInt8} {w : Walk} (entered : enter mode frames b = some w)
    (refused : scan (feed mode) w rest = .bad) : Balks mode frames (b :: rest)
  | outOfRange {b : UInt8} {rest : List UInt8} {w : Walk} {s : NumberScan} {k : Numeral}
    (entered : enter mode frames b = some w) (scanned : run (feed mode) w rest = .more ⟨frames, .number s⟩)
    (ended : ∀ e, NumberScan.ends e = true → s.feed e = .past k) (value : k.value? = none) :
    Balks mode frames (b :: rest)

/-- The byte after a number shows its end, -/
theorem feed_past {s : NumberScan} {k : Numeral} {v : Json} {e : UInt8} (ended : s.feed e = .past k)
    (value : (if mode.keeps then k.value?.map Json.number else some .null) = some v) :
    feed mode ⟨[], .number s⟩ e = .past v := by
  simp only [feed, ended, deliverNumber, value]

/-- or that it is out of range. -/
theorem feed_outOfRange {s : NumberScan} {k : Numeral} {e : UInt8} (hkeeps : mode.keeps = true)
    (ended : s.feed e = .past k) (value : k.value? = none) : feed mode ⟨frames, .number s⟩ e = .bad := by
  simp [feed, ended, deliverNumber, hkeeps, value]

/-- A value is read, or it is refused where it is wanted. -/
def Passes (mode : Mode) (frames : List Frame) (bytes : List UInt8) : Prop :=
  (∃ v, Brings mode frames v bytes) ∨ (mode.keeps = true ∧ Balks mode frames bytes)

/-- A value inside a frame goes to the frame. -/
theorem Brings.leads {f : Frame} {v : Json} {bytes : List UInt8} (h : Brings mode (f :: frames) v bytes)
    {phase : Phase} (hp : phase = .value ∨ phase = .item) :
    Leads (feed mode) ⟨f :: frames, phase⟩ bytes ⟨(if mode.keeps then f.add v else f) :: frames, .after⟩ := by
  cases h with
  | closed entered delivered => exact leads_of_run ((run_cons (feed_enter entered hp) _).trans delivered)
  | @counted b rest w s k entered scanned ended value =>
    refine ⟨_, (run_cons (feed_enter entered hp) _).trans scanned, fun e he => ?_⟩
    simp only [feed, ended e he, deliverNumber, value]

theorem Balks.fails {f : Frame} {bytes : List UInt8} (hkeeps : mode.keeps = true) (h : Balks mode (f :: frames) bytes)
    {phase : Phase} (hp : phase = .value ∨ phase = .item) : Fails (feed mode) ⟨f :: frames, phase⟩ bytes := by
  cases h with
  | tooDeep bracket refused =>
    refine fails_of_scan (scan_cons_bad ?_ _)
    rcases bracket with rfl | rfl <;> rcases hp with rfl | rfl <;> simp [feed, isSpace, begin, refused]
  | inside entered refused => exact fails_of_scan ((scan_cons (feed_enter entered hp) _).trans refused)
  | @outOfRange b rest w s k entered scanned ended value =>
    intro e he
    rw [List.cons_append, scan_cons (feed_enter entered hp), scan_of_run scanned, scan_single]
    exact feed_outOfRange hkeeps (ended e he) value

/-- After a value inside a frame. -/
theorem Passes.gets {f : Frame} {bytes : List UInt8} (h : Passes mode (f :: frames) bytes) {phase : Phase}
    (hp : phase = .value ∨ phase = .item) : Gets (feed mode) mode.keeps ⟨f :: frames, phase⟩ bytes
      fun t => ∃ g, (g = f ∨ ∃ v, g = f.add v) ∧ t = ⟨g :: frames, .after⟩ := by
  rcases h with ⟨v, hv⟩ | ⟨hkeeps, hbalks⟩
  · refine .inl ⟨_, ⟨_, ?_, rfl⟩, hv.leads hp⟩
    split
    · exact .inr ⟨v, rfl⟩
    · exact .inl rfl
  · exact .inr ⟨hkeeps, hbalks.fails hkeeps hp⟩

/-! ### Words, strings and numbers -/

theorem passes_string {cs : List Char} (h : Quotable cs) : Passes mode frames (utf8 ('"' :: (cs ++ ['"']))) := by
  have hbytes : utf8 ('"' :: (cs ++ ['"'])) = 0x22 :: (utf8 cs ++ [0x22]) := by
    rw [utf8_cons, utf8_append]
    rfl
  have hmore : ∀ s b t, TextScan.feed mode s b = .more t →
      feed mode ⟨frames, .text s⟩ b = .more ⟨frames, .text t⟩ := fun s b t hb => by simp [feed, hb]
  have henter : enter mode frames 0x22 = some ⟨frames, .text .start⟩ := rfl
  rw [hbytes]
  rcases TextScan.quoted_cases h mode with ⟨t, ht⟩ | ⟨hkeeps, hbad⟩
  · refine .inl ⟨.string t, .closed henter ?_⟩
    exact run_lift_done (feed mode) (fun s => (⟨frames, .text s⟩ : Walk)) (deliver mode (.string t) frames) hmore
      (fun s b hb => by simp [feed, hb]) ht
  · refine .inr ⟨hkeeps, .inside henter ?_⟩
    exact scan_lift (feed mode) (fun s => (⟨frames, .text s⟩ : Walk)) hmore (fun s b hb => by simp [feed, hb]) hbad

theorem passes_number {cs : List Char} (h : Numeric cs) : Passes mode frames (utf8 cs) := by
  obtain ⟨b, rest, s, t, k, hbytes, henter, hrun, hends⟩ := NumberScan.run_numeric h
  have hscanned : run (feed mode) ⟨frames, .number s⟩ rest = .more ⟨frames, .number t⟩ :=
    run_lift (feed mode) (fun s => (⟨frames, .number s⟩ : Walk)) (fun s b t hb => by simp [feed, hb]) hrun
  rw [hbytes]
  cases hvalue : (if mode.keeps then k.value?.map Json.number else some .null) with
  | some v => exact .inl ⟨v, .counted (henter mode frames) hscanned hends hvalue⟩
  | none =>
    have hkeeps : mode.keeps = true := by
      cases hmode : mode.keeps with
      | true => rfl
      | false => simp [hmode] at hvalue
    refine .inr ⟨hkeeps, .outOfRange (henter mode frames) hscanned hends ?_⟩
    simpa [hkeeps] using hvalue

/-! ### Arrays and objects -/

/-- What stands between brackets that are entered as far as there is room. -/
theorem passes_between {b e : UInt8} {f : Frame} {phase : Phase} {bytes : List UInt8} {P : Walk → Prop}
    (hbracket : b = 0x5B ∨ b = 0x7B)
    (hentered : enter mode frames b = if mode.admits frames then some ⟨f :: frames, phase⟩ else none)
    (h : Gets (feed mode) mode.keeps ⟨f :: frames, phase⟩ bytes P) (he : NumberScan.ends e = true)
    (hclose : ∀ t, P t → ∃ g, feed mode t e = leave mode (g :: frames)) :
    Passes mode frames (b :: (bytes ++ [e])) := by
  cases hadmits : mode.admits frames with
  | false =>
    have hkeeps : mode.keeps = true := by
      cases mode with
      | keep room => rfl
      | skip => cases hadmits
    exact .inr ⟨hkeeps, .tooDeep hbracket (by rw [hentered, hadmits]; rfl)⟩
  | true =>
    rw [hadmits, if_pos rfl] at hentered
    rcases h with ⟨t, ht, hleads⟩ | ⟨hkeeps, hfails⟩
    · obtain ⟨g, hg⟩ := hclose t ht
      refine .inl ⟨if mode.keeps then g.value else .null, .closed hentered ?_⟩
      rw [hleads.run_eq he, run_single, hg, leave]
    · exact .inr ⟨hkeeps, .inside hentered (hfails e he)⟩

theorem enter_bracket (mode : Mode) (frames : List Frame) :
    enter mode frames 0x5B = if mode.admits frames then some ⟨.array [] :: frames, .item⟩ else none := by
  simp [enter, isDigit]

theorem enter_brace (mode : Mode) (frames : List Frame) :
    enter mode frames 0x7B = if mode.admits frames then some ⟨.object [] "" :: frames, .member⟩ else none := by
  simp [enter, isDigit]

/-- White space before a value. -/
theorem run_blank_value {w : List Char} (hw : Blank w) {phase : Phase} (hp : phase = .value ∨ phase = .item) :
    run (feed mode) ⟨frames, phase⟩ (utf8 w) = .more ⟨frames, phase⟩ :=
  run_blank (fun b hb => by rcases hp with rfl | rfl <;> simp [feed, hb]) hw

theorem feed_space_after (f : Frame) {b : UInt8} (hb : isSpace b = true) :
    feed mode ⟨f :: frames, .after⟩ b = .more ⟨f :: frames, .after⟩ := by
  cases f <;> simp [feed, separate, hb]

/-- An item of an array. -/
theorem gets_item {items : List Json} {v w x : List Char} (hw : Blank w)
    (hv : Passes mode (.array items :: frames) (utf8 v)) (hx : Blank x) {phase : Phase}
    (hp : phase = .value ∨ phase = .item) :
    Gets (feed mode) mode.keeps ⟨.array items :: frames, phase⟩ (utf8 (w ++ (v ++ x)))
      fun t => ∃ items', t = ⟨.array items' :: frames, .after⟩ := by
  have hitem : Gets (feed mode) mode.keeps ⟨.array items :: frames, phase⟩ (utf8 v)
      fun t => ∃ items', t = ⟨.array items' :: frames, .after⟩ := by
    refine (hv.gets hp).mono ?_
    rintro t ⟨g, rfl | ⟨u, rfl⟩, rfl⟩
    · exact ⟨_, rfl⟩
    · exact ⟨_, rfl⟩
  rw [utf8_append, utf8_append]
  refine .before (run_blank_value hw hp) (hitem.blank ?_ hx)
  rintro t ⟨items', rfl⟩ b hb
  exact feed_space_after _ hb

/-- The name of a member and the colon after it. -/
theorem run_head {members : List (String × Json)} {previous : String} {name w x y : List Char} (hw : Blank w)
    (hname : Quotable name) (hx : Blank x) (hy : Blank y) {phase : Phase} (hp : phase = .member ∨ phase = .name) :
    (∃ t, run (feed mode) ⟨.object members previous :: frames, phase⟩
      (utf8 (w ++ '"' :: (name ++ '"' :: (x ++ ':' :: y)))) = .more ⟨.object members t :: frames, .value⟩) ∨
      (mode.keeps = true ∧ scan (feed mode) ⟨.object members previous :: frames, phase⟩
        (utf8 (w ++ '"' :: (name ++ '"' :: (x ++ ':' :: y)))) = .bad) := by
  have hbytes : utf8 (w ++ '"' :: (name ++ '"' :: (x ++ ':' :: y))) =
      utf8 w ++ 0x22 :: ((utf8 name ++ [0x22]) ++ (utf8 x ++ 0x3A :: utf8 y)) := by
    simp only [utf8_append, utf8_cons, List.append_assoc]
    rfl
  have hblank : run (feed mode) ⟨.object members previous :: frames, phase⟩ (utf8 w) =
      .more ⟨.object members previous :: frames, phase⟩ :=
    run_blank (fun b hb => by rcases hp with rfl | rfl <;> simp [feed, hb]) hw
  have hquote : feed mode ⟨.object members previous :: frames, phase⟩ 0x22 =
      .more ⟨.object members previous :: frames, .nameText .start⟩ := by
    rcases hp with rfl | rfl <;> rfl
  have hmore : ∀ s b t, TextScan.feed mode s b = .more t →
      feed mode ⟨.object members previous :: frames, .nameText s⟩ b =
        .more ⟨.object members previous :: frames, .nameText t⟩ := fun s b t hb => by simp [feed, hb]
  rw [hbytes]
  rcases TextScan.quoted_cases hname mode with ⟨t, ht⟩ | ⟨hkeeps, hbad⟩
  · have hnamed := run_lift_done (feed mode)
      (fun s => (⟨.object members previous :: frames, .nameText s⟩ : Walk))
      (.more ⟨.object members t :: frames, .colon⟩) hmore (fun s b hb => by simp [feed, hb, Frame.rename]) ht
    have hcolon : run (feed mode) ⟨.object members t :: frames, .colon⟩ (utf8 x) =
        .more ⟨.object members t :: frames, .colon⟩ := run_blank (fun b hb => by simp [feed, hb]) hx
    refine .inl ⟨t, ?_⟩
    rw [run_append hblank, run_cons hquote, run_append hnamed, run_append hcolon]
    exact (run_cons rfl _).trans (run_blank_value hy (.inl rfl))
  · have hnamed := scan_lift (feed mode)
      (fun s => (⟨.object members previous :: frames, .nameText s⟩ : Walk)) hmore
      (fun s b hb => by simp [feed, hb]) hbad
    refine .inr ⟨hkeeps, ?_⟩
    rw [scan_of_run hblank, scan_cons hquote]
    exact scan_bad_append hnamed _

/-- A member of an object. -/
theorem gets_member {members : List (String × Json)} {previous : String} {name v w x y z : List Char} (hw : Blank w)
    (hname : Quotable name) (hx : Blank x) (hy : Blank y)
    (hv : ∀ label, Passes mode (.object members label :: frames) (utf8 v)) (hz : Blank z) {phase : Phase}
    (hp : phase = .member ∨ phase = .name) :
    Gets (feed mode) mode.keeps ⟨.object members previous :: frames, phase⟩
      (utf8 (w ++ '"' :: (name ++ '"' :: (x ++ ':' :: (y ++ (v ++ z))))))
      fun t => ∃ members' label, t = ⟨.object members' label :: frames, .after⟩ := by
  have hmember : ∀ label, Gets (feed mode) mode.keeps ⟨.object members label :: frames, .value⟩ (utf8 v)
      fun t => ∃ members' label, t = ⟨.object members' label :: frames, .after⟩ := by
    intro label
    refine ((hv label).gets (.inl rfl)).mono ?_
    rintro t ⟨g, rfl | ⟨u, rfl⟩, rfl⟩
    · exact ⟨_, _, rfl⟩
    · exact ⟨_, _, rfl⟩
  rw [utf8_member]
  rcases @run_head mode frames members previous name w x y hw hname hx hy phase hp with ⟨label, hlabel⟩ | ⟨hkeeps, hbad⟩
  · refine .before hlabel ((hmember label).blank ?_ hz)
    rintro t ⟨members', label', rfl⟩ b hb
    exact feed_space_after _ hb
  · exact .inr ⟨hkeeps, fails_of_scan (scan_bad_append hbad _)⟩

/-! ### Any value -/

/-- What becomes of a part of a value. -/
def Carries (mode : Mode) (cs : List Char) : Part → Prop
  | .value => ∀ frames, Passes mode frames (utf8 cs)
  | .items => ∀ frames items phase, phase = .value ∨ phase = .item →
      Gets (feed mode) mode.keeps ⟨.array items :: frames, phase⟩ (utf8 cs)
        fun t => ∃ items', t = ⟨.array items' :: frames, .after⟩
  | .members => ∀ frames members label phase, phase = .member ∨ phase = .name →
      Gets (feed mode) mode.keeps ⟨.object members label :: frames, phase⟩ (utf8 cs)
        fun t => ∃ members' label', t = ⟨.object members' label' :: frames, .after⟩

/-- **Any well-formed value** is read, or it is refused where it is wanted. -/
theorem carries_of_wellFormed {part : Part} {cs : List Char} (h : WellFormed part cs) (mode : Mode) :
    Carries mode cs part := by
  induction h with
  | null => exact fun frames => .inl ⟨.null, .closed rfl (by cases frames <;> rfl)⟩
  | true => exact fun frames => .inl ⟨.bool true, .closed rfl (by cases frames <;> rfl)⟩
  | false => exact fun frames => .inl ⟨.bool false, .closed rfl (by cases frames <;> rfl)⟩
  | number hcs => exact fun frames => passes_number hcs
  | string hcs => exact fun frames => passes_string hcs
  | @noItems w hw =>
    intro frames
    have hblank : run (feed mode) ⟨.array [] :: frames, .item⟩ (utf8 w) = .more ⟨.array [] :: frames, .item⟩ :=
      run_blank_value hw (.inr rfl)
    rw [utf8_cons, utf8_append]
    refine passes_between (.inl rfl) (enter_bracket mode frames) (.inl ⟨_, rfl, leads_of_run hblank⟩) rfl ?_
    rintro t rfl
    exact ⟨_, rfl⟩
  | array _ ih =>
    intro frames
    rw [utf8_cons, utf8_append]
    refine passes_between (.inl rfl) (enter_bracket mode frames) (ih frames [] .item (.inr rfl)) rfl ?_
    rintro t ⟨items, rfl⟩
    exact ⟨_, rfl⟩
  | @noMembers w hw =>
    intro frames
    have hblank : run (feed mode) ⟨.object [] "" :: frames, .member⟩ (utf8 w) =
        .more ⟨.object [] "" :: frames, .member⟩ := run_blank (fun b hb => by simp [feed, hb]) hw
    rw [utf8_cons, utf8_append]
    refine passes_between (.inr rfl) (enter_brace mode frames) (.inl ⟨_, rfl, leads_of_run hblank⟩) rfl ?_
    rintro t rfl
    exact ⟨_, rfl⟩
  | object _ ih =>
    intro frames
    rw [utf8_cons, utf8_append]
    refine passes_between (.inr rfl) (enter_brace mode frames) (ih frames [] "" .member (.inl rfl)) rfl ?_
    rintro t ⟨members, label, rfl⟩
    exact ⟨_, rfl⟩
  | item hw _ hx ih => exact fun frames items phase hp => gets_item hw (ih _) hx hp
  | @items v w x rest hw _ hx _ ihv ih =>
    intro frames items phase hp
    rw [utf8_items]
    refine (gets_item hw (ihv _) hx hp).append rfl ?_
    rintro t ⟨items', rfl⟩
    exact .cons rfl (ih frames items' .value (.inl rfl))
  | member hw hname hx hy _ hz ih =>
    exact fun frames members label phase hp => gets_member hw hname hx hy (fun _ => ih _) hz hp
  | @members name v w x y z rest hw hname hx hy _ hz _ ihv ih =>
    intro frames members label phase hp
    rw [utf8_members]
    refine (gets_member hw hname hx hy (fun _ => ihv _) hz hp).append rfl ?_
    rintro t ⟨members', label', rfl⟩
    exact .cons rfl (ih frames members' label' .name (.inr rfl))

end Walk

end SwitchBench.Json
