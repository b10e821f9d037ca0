import SwitchBench.Proofs.Json.Passing
import SwitchBench.Proofs.Json.Records

/-! Reading records however they are laid out.

A record is read from an object with its fields in any order among others that are stepped over
(`Record.run_object`), and from an array of the first of its fields (`Record.run_array`). A field that
comes again is refused, whatever its values are (`Record.scan_object_repeated`). -/
namespace SwitchBench.Json

theorem Walk.brings_of_reads {room : Nat} {frames : List Frame} {v : Json} (h : Walk.Reads room frames v) :
    Walk.Brings (.keep room) frames v (utf8 v.write) := by
  cases h with
  | closed written entered delivered =>
    rw [written]
    exact .closed entered delivered
  | counted written entered scanned ended value =>
    rw [written]
    exact .counted entered scanned ended (by simp [Mode.keeps, value])

/-- A value is read however it is spelled. -/
theorem Walk.brings_of_spells {room : Nat} {v : Json} {cs : List Char} (h : Spells v cs) (hv : Nested room v)
    (frames : List Frame) : Walk.Brings (.keep room) frames v (utf8 cs) := by
  cases h with
  | null => exact .closed rfl (by cases frames <;> rfl)
  | @string s cs hcs =>
    have hbytes : utf8 ('"' :: (cs ++ ['"'])) = 0x22 :: (utf8 cs ++ [0x22]) := by
      rw [utf8_cons, utf8_append]
      rfl
    have hmore : ∀ s b t, TextScan.feed (.keep room) s b = .more t →
        Walk.feed (.keep room) ⟨frames, .text s⟩ b = .more ⟨frames, .text t⟩ := fun s b t hb => by
      simp [Walk.feed, hb]
    have henter : Walk.enter (.keep room) frames 0x22 = some ⟨frames, .text .start⟩ := rfl
    rw [hbytes]
    refine .closed henter ?_
    exact run_lift_done (Walk.feed (.keep room)) (fun s => (⟨frames, .text s⟩ : Walk))
      (Walk.deliver (.keep room) (.string s) frames) hmore (fun s b hb => by simp [Walk.feed, hb])
      (TextScan.run_quoted hcs)
  | whole n =>
    cases hv with
    | whole low high => exact Walk.brings_of_reads (Walk.reads_whole frames low high)

/-- It begins with no bracket. -/
theorem Spells.head {room : Nat} {v : Json} {cs : List Char} (h : Spells v cs) (hv : Nested room v) {b : UInt8}
    {rest : List UInt8} (hb : utf8 cs = b :: rest) : (b == 0x5B || b == 0x7B) = false := by
  cases h with
  | null => cases hb; rfl
  | string => cases hb; rfl
  | whole n => exact hv.head_of_isScalar rfl hb

namespace Record
variable {fields : List Field}

/-! ### One value -/

/-- Whether an array or object is refused for a target. -/
def scalarAt (fields : List Field) (target : Option Nat) : Bool :=
  ((target.bind (fields[·]?)).map (·.scalar)).getD false

/-- The slots when a value has gone to its target. -/
def stored (slots : List (Option Json)) (v : Json) : Option Nat → List (Option Json)
  | none => slots
  | some i => slots.set i (some v)

/-- The target takes the value. -/
def Accepts (fields : List Field) (v : Json) (target : Option Nat) : Prop :=
  ∀ i, target = some i → ∃ f, fields[i]? = some f ∧ f.accepts v = true

/-- A value is due for a target. -/
def Due (fields : List Field) (s : State) (layout : Layout) (slots : List (Option Json)) (target : Option Nat) : Prop :=
  ∀ b, isSpace b = false → b ≠ 0x5D → feed fields s b = enter fields ⟨layout, slots, .due target⟩ target b

theorem due_due (layout : Layout) (slots : List (Option Json)) (target : Option Nat) :
    Due fields ⟨layout, slots, .due target⟩ layout slots target := fun b hspace _ => by
  simp [feed, hspace]

theorem due_item (slots : List (Option Json)) :
    Due fields ⟨.byPlace 0, slots, .item⟩ (.byPlace 1) slots (some 0) := fun b hspace hclose => by
  simp [feed, hspace, hclose, enter]

theorem store_of_accepts {s : State} {v : Json} {target : Option Nat} (h : Accepts fields v target) :
    store fields s target v = some { s with slots := stored s.slots v target, stage := .after } := by
  cases target with
  | none => rfl
  | some i =>
    obtain ⟨f, hf, haccepts⟩ := h i rfl
    simp [store, stored, hf, haccepts]

theorem store_of_not_accepts {s : State} {v : Json} {target : Option Nat} (h : ¬ Accepts fields v target) :
    store fields s target v = none := by
  cases target with
  | none => exact absurd (fun i hi => nomatch hi) h
  | some i =>
    cases hf : fields[i]? with
    | none => simp [store, hf]
    | some f =>
      have hrefuses : ¬ f.accepts v = true := fun haccepts => h fun j hj => by
        cases hj
        exact ⟨f, hf, haccepts⟩
      simp [store, hf, hrefuses]

theorem enter_eq (s : State) (target : Option Nat) (b : UInt8) : enter fields s target b =
    if scalarAt fields target && (b == 0x5B || b == 0x7B) then .bad
    else match Walk.enter (mode target) [] b with
      | some w => .more { s with stage := .inside target w }
      | none => .bad :=
  rfl

section
variable {s : State} {layout : Layout} {slots : List (Option Json)} {target : Option Nat} {bytes : List UInt8}

/-- The first byte may begin a value for a target. -/
def Begins (fields : List Field) (target : Option Nat) (bytes : List UInt8) : Prop :=
  ∀ b rest, bytes = b :: rest → (scalarAt fields target && (b == 0x5B || b == 0x7B)) = false

theorem feed_of_due (hdue : Due fields s layout slots target) {b : UInt8} {rest : List UInt8} {w : Walk}
    (hentered : Walk.enter (mode target) [] b = some w) (hbegins : Begins fields target (b :: rest)) :
    feed fields s b = .more ⟨layout, slots, .inside target w⟩ := by
  have hclose : b ≠ 0x5D := by
    rintro rfl
    cases hentered
  rw [hdue b (Walk.isSpace_of_enter hentered) hclose, enter_eq, hbegins b rest rfl, hentered]
  rfl

theorem feed_bracket (hdue : Due fields s layout slots target) {b : UInt8} (hb : b = 0x5B ∨ b = 0x7B) :
    feed fields s b = enter fields ⟨layout, slots, .due target⟩ target b := by
  rcases hb with rfl | rfl <;> exact hdue _ rfl (by decide)

theorem feed_inside {w u : Walk} {b : UInt8} (h : w.feed (mode target) b = .more u) :
    feed fields ⟨layout, slots, .inside target w⟩ b = .more ⟨layout, slots, .inside target u⟩ := by
  simp [feed, h]

/-- What is refused inside a value is refused. -/
theorem feed_inside_bad {w : Walk} {b : UInt8} (h : w.feed (mode target) b = .bad) :
    feed fields ⟨layout, slots, .inside target w⟩ b = .bad := by
  simp [feed, h]

/-- A value that has begun goes on. -/
theorem run_inside (hdue : Due fields s layout slots target) {b : UInt8} {rest : List UInt8} {w u : Walk}
    (hentered : Walk.enter (mode target) [] b = some w) (hbegins : Begins fields target (b :: rest))
    (h : run (Walk.feed (mode target)) w rest = .more u) :
    run (feed fields) s (b :: rest) = .more ⟨layout, slots, .inside target u⟩ := by
  rw [run_cons (feed_of_due hdue hentered hbegins)]
  exact run_lift (feed fields) (fun w => (⟨layout, slots, .inside target w⟩ : State)) (fun _ _ _ => feed_inside) h

/-- A value that its target takes goes there. -/
theorem leads_value (hdue : Due fields s layout slots target) {v : Json} (h : Walk.Brings (mode target) [] v bytes)
    (haccepts : Accepts fields v target) (hbegins : Begins fields target bytes) :
    Leads (feed fields) s bytes ⟨layout, stored slots v target, .after⟩ := by
  cases h with
  | closed entered delivered =>
    refine leads_of_run ((run_cons (feed_of_due hdue entered hbegins) _).trans ?_)
    exact run_lift_done (feed fields) (fun w => (⟨layout, slots, .inside target w⟩ : State)) _
      (fun _ _ _ => feed_inside) (fun w b hb => by simp [feed, hb, store_of_accepts haccepts]) delivered
  | counted entered scanned ended value =>
    refine ⟨_, run_inside hdue entered hbegins scanned, fun e he => ?_⟩
    simp only [feed, Walk.feed_past (ended e he) value, store_of_accepts haccepts]

/-- A value that its target does not take is refused. -/
theorem fails_value (hdue : Due fields s layout slots target) {v : Json} (h : Walk.Brings (mode target) [] v bytes)
    (hrefuses : ¬ Accepts fields v target) (hbegins : Begins fields target bytes) : Fails (feed fields) s bytes := by
  cases h with
  | closed entered delivered =>
    refine fails_of_scan ((scan_cons (feed_of_due hdue entered hbegins) _).trans ?_)
    exact scan_lift_done (feed fields) (fun w => (⟨layout, slots, .inside target w⟩ : State)) .bad
      (fun _ _ _ => feed_inside) (fun w b hb => by simp [feed, hb, store_of_not_accepts hrefuses]) delivered
  | counted entered scanned ended value =>
    intro e he
    rw [scan_of_run (run_inside hdue entered hbegins scanned), scan_single]
    simp only [feed, Walk.feed_past (ended e he) value, store_of_not_accepts hrefuses]

/-- So is one that is refused where it is wanted, -/
theorem fails_of_balks (hdue : Due fields s layout slots target) (hkeeps : (mode target).keeps = true)
    (h : Walk.Balks (mode target) [] bytes) (hbegins : Begins fields target bytes) : Fails (feed fields) s bytes := by
  cases h with
  | @tooDeep b rest bracket refused =>
    refine fails_of_scan (scan_cons_bad ?_ _)
    rw [feed_bracket hdue bracket, enter_eq, hbegins b rest rfl, refused]
    rfl
  | inside entered refused =>
    refine fails_of_scan ((scan_cons (feed_of_due hdue entered hbegins) _).trans ?_)
    exact scan_lift (feed fields) (fun w => (⟨layout, slots, .inside target w⟩ : State))
      (fun _ _ _ => feed_inside) (fun _ _ => feed_inside_bad) refused
  | outOfRange entered scanned ended value =>
    intro e he
    rw [scan_of_run (run_inside hdue entered hbegins scanned), scan_single]
    exact feed_inside_bad (Walk.feed_outOfRange hkeeps (ended e he) value)

/-- and one that may not begin as it does. -/
theorem fails_of_not_begins (hdue : Due fields s layout slots target) (h : ¬ Begins fields target bytes) :
    Fails (feed fields) s bytes := by
  cases bytes with
  | nil => exact absurd (fun b rest hb => nomatch hb) h
  | cons b rest =>
    have hrefused : (scalarAt fields target && (b == 0x5B || b == 0x7B)) = true := by
      refine (Bool.not_eq_false _).mp fun hfalse => h fun c more hc => ?_
      cases hc
      exact hfalse
    have hbracket : b = 0x5B ∨ b = 0x7B := by
      simp only [Bool.and_eq_true, Bool.or_eq_true, beq_iff_eq] at hrefused
      exact hrefused.2
    refine fails_of_scan (scan_cons_bad ?_ _)
    rw [feed_bracket hdue hbracket, enter_eq, hrefused]
    rfl

/-- Any well-formed value goes to its target, or it is refused. -/
theorem gets_value (hdue : Due fields s layout slots target) {v : List Char} (hv : WellFormed .value v) :
    Gets (feed fields) true s (utf8 v) fun t => ∃ u, t = ⟨layout, stored slots u target, .after⟩ := by
  have hpasses : Walk.Passes (mode target) [] (utf8 v) := Walk.carries_of_wellFormed hv _ []
  by_cases hbegins : Begins fields target (utf8 v)
  · rcases hpasses with ⟨u, hu⟩ | ⟨hkeeps, hbalks⟩
    · by_cases haccepts : Accepts fields u target
      · exact .inl ⟨_, ⟨u, rfl⟩, leads_value hdue hu haccepts hbegins⟩
      · exact .inr ⟨rfl, fails_value hdue hu haccepts hbegins⟩
    · exact .inr ⟨rfl, fails_of_balks hdue hkeeps hbalks hbegins⟩
  · exact .inr ⟨rfl, fails_of_not_begins hdue hbegins⟩

end

/-! ### Objects -/

/-- The field of a name. -/
def fieldOf (fields : List Field) (name : String) : Option Nat := fields.findIdx? fun f => f.name == name

/-- A target has a value already. -/
def isTaken (slots : List (Option Json)) (target : Option Nat) : Bool := ((target.bind (slots[·]?)).join).isSome

section
variable {slots filled : List (Option Json)} {name : String} {spelling w x y : List Char} {stage : Stage}

/-- White space before a name, and its opening quote. -/
theorem run_quote (hw : Blank w) (hstage : stage = .member ∨ stage = .name) :
    run (feed fields) ⟨.byName, slots, stage⟩ (utf8 w ++ [0x22]) = .more ⟨.byName, slots, .nameText .start⟩ := by
  have hblank : run (feed fields) ⟨.byName, slots, stage⟩ (utf8 w) = .more ⟨.byName, slots, stage⟩ :=
    run_blank (fun b hb => by rcases hstage with rfl | rfl <;> simp [feed, hb]) hw
  rw [run_append hblank, run_single]
  rcases hstage with rfl | rfl <;> rfl

/-- The name of a member up to its closing quote. -/
theorem scan_label (hname : Spelled spelling name.toList) : scan (feed fields) ⟨.byName, slots, .nameText .start⟩
    (utf8 spelling ++ [0x22]) =
      if isTaken slots (fieldOf fields name) then .bad else .more ⟨.byName, slots, .colon (fieldOf fields name)⟩ := by
  have hquoted : run (TextScan.feed (.keep room)) .start (utf8 spelling ++ [0x22]) = .done name :=
    TextScan.run_quoted hname
  refine scan_lift_done (feed fields) (fun t => (⟨.byName, slots, .nameText t⟩ : State)) _ (fun t b u hb => ?_)
    (fun t b hb => ?_) hquoted
  · simp [feed, hb]
  · simp only [feed, hb]
    rfl

theorem head_bytes : utf8 (w ++ '"' :: (spelling ++ '"' :: (x ++ ':' :: y))) =
    (utf8 w ++ [0x22]) ++ ((utf8 spelling ++ [0x22]) ++ (utf8 x ++ 0x3A :: utf8 y)) := by
  simp only [utf8_append, utf8_cons, List.append_assoc]
  rfl

/-- The name of a member that may come leads to its value, -/
theorem run_head (hw : Blank w) (hname : Spelled spelling name.toList) (hx : Blank x) (hy : Blank y)
    (hstage : stage = .member ∨ stage = .name) (hfree : isTaken slots (fieldOf fields name) = false) :
    run (feed fields) ⟨.byName, slots, stage⟩ (utf8 (w ++ '"' :: (spelling ++ '"' :: (x ++ ':' :: y)))) =
      .more ⟨.byName, slots, .due (fieldOf fields name)⟩ := by
  have hlabel : run (feed fields) ⟨.byName, slots, .nameText .start⟩ (utf8 spelling ++ [0x22]) =
      .more ⟨.byName, slots, .colon (fieldOf fields name)⟩ :=
    run_of_scan (by rw [scan_label hname, hfree]; rfl)
  have hcolon : run (feed fields) ⟨.byName, slots, .colon (fieldOf fields name)⟩ (utf8 x) =
      .more ⟨.byName, slots, .colon (fieldOf fields name)⟩ := run_blank (fun b hb => by simp [feed, hb]) hx
  have hdue : run (feed fields) ⟨.byName, slots, .due (fieldOf fields name)⟩ (utf8 y) =
      .more ⟨.byName, slots, .due (fieldOf fields name)⟩ := run_blank (fun b hb => by simp [feed, hb]) hy
  rw [head_bytes, run_append (run_quote hw hstage), run_append hlabel, run_append hcolon]
  exact (run_cons rfl _).trans hdue

/-- and that of one that may not come again is refused. -/
theorem scan_head (hw : Blank w) (hname : Spelled spelling name.toList) (hstage : stage = .member ∨ stage = .name)
    (htaken : isTaken slots (fieldOf fields name) = true) : scan (feed fields) ⟨.byName, slots, stage⟩
      (utf8 (w ++ '"' :: (spelling ++ '"' :: (x ++ ':' :: y)))) = .bad := by
  have hlabel : scan (feed fields) ⟨.byName, slots, .nameText .start⟩ (utf8 spelling ++ [0x22]) = .bad := by
    rw [scan_label hname, htaken]
    rfl
  rw [head_bytes, scan_of_run (run_quote hw hstage)]
  exact scan_bad_append hlabel _

/-- How a member changes the slots: a field with a value of its own comes to a free slot, and any other
field is stepped over. -/
inductive Takes (fields : List Field) (slots : List (Option Json)) :
    String × List Char → List (Option Json) → Prop
  | field {name : String} {cs : List Char} {v : Json} {i : Nat} {f : Field} (found : fieldOf fields name = some i)
    (field : fields[i]? = some f) (free : isTaken slots (some i) = false) (spelled : Spells v cs)
    (nested : Nested room v) (accepted : f.accepts v = true) : Takes fields slots (name, cs) (slots.set i (some v))
  | other {name : String} {cs : List Char} (unknown : fieldOf fields name = none) (formed : WellFormed .value cs) :
    Takes fields slots (name, cs) slots

/-- How members change them one after the other. -/
inductive Fits (fields : List Field) :
    List (Option Json) → List (String × List Char) → List (Option Json) → Prop
  | nil {slots : List (Option Json)} : Fits fields slots [] slots
  | cons {slots next filled : List (Option Json)} {m : String × List Char} {ms : List (String × List Char)}
    (first : Takes fields slots m next) (rest : Fits fields next ms filled) : Fits fields slots (m :: ms) filled

/-- A value of a field goes to its slot. -/
theorem leads_spelled {s : State} {layout : Layout} {i : Nat} {f : Field} {v : Json} {cs : List Char}
    (hdue : Due fields s layout slots (some i)) (field : fields[i]? = some f) (spelled : Spells v cs)
    (nested : Nested room v) (accepted : f.accepts v = true) :
    Leads (feed fields) s (utf8 cs) ⟨layout, slots.set i (some v), .after⟩ := by
  have haccepts : Accepts fields v (some i) := fun j hj => by
    cases hj
    exact ⟨f, field, accepted⟩
  refine leads_value hdue (Walk.brings_of_spells spelled nested []) haccepts fun b rest hb => ?_
  rw [spelled.head nested hb, Bool.and_false]

theorem feed_space_after {layout : Layout} {b : UInt8} (hb : isSpace b = true) :
    feed fields ⟨layout, slots, .after⟩ b = .more ⟨layout, slots, .after⟩ := by
  simp [feed, separate, hb]

theorem leads_member {next : List (Option Json)} {v z : List Char} (h : Takes fields slots (name, v) next)
    (hw : Blank w) (hname : Spelled spelling name.toList) (hx : Blank x) (hy : Blank y) (hz : Blank z)
    (hstage : stage = .member ∨ stage = .name) : Leads (feed fields) ⟨.byName, slots, stage⟩
      (utf8 (w ++ '"' :: (spelling ++ '"' :: (x ++ ':' :: (y ++ (v ++ z)))))) ⟨.byName, next, .after⟩ := by
  rw [utf8_member]
  cases h with
  | field found field free spelled nested accepted =>
    rw [← found] at free
    refine .before (run_head hw hname hx hy hstage free) (.blank ?_ (fun _ => feed_space_after) hz)
    rw [found]
    exact leads_spelled (due_due _ _ _) field spelled nested accepted
  | other unknown formed =>
    have free : isTaken slots (fieldOf fields name) = false := by rw [unknown]; rfl
    refine .before (run_head hw hname hx hy hstage free) (.blank ?_ (fun _ => feed_space_after) hz)
    rw [unknown]
    rcases Walk.carries_of_wellFormed formed .skip [] with ⟨u, hu⟩ | ⟨hkeeps, -⟩
    · exact leads_value (due_due _ _ none) hu (fun i hi => nomatch hi) fun _ _ _ => rfl
    · cases hkeeps

theorem leads_members {ms : List (String × List Char)} {cs : List Char} (hms : Members ms cs)
    (h : Fits fields slots ms filled) (hstage : stage = .member ∨ stage = .name) :
    Leads (feed fields) ⟨.byName, slots, stage⟩ (utf8 cs) ⟨.byName, filled, .after⟩ := by
  induction hms generalizing slots stage with
  | one hw hname hx hy hz =>
    cases h with
    | cons first rest =>
      cases rest
      exact leads_member first hw hname hx hy hz hstage
  | @more name spelling v w x y z rest ms hw hname hx hy hz _ ih =>
    cases h with
    | cons first others =>
      rw [utf8_members]
      exact (leads_member first hw hname hx hy hz hstage).append rfl (.cons rfl (ih others (.inr rfl)))

end

/-- White space before a record. -/
theorem run_start {w : List Char} (hw : Blank w) : run (feed fields) (start fields) (utf8 w) = .more (start fields) :=
  run_blank (fun b hb => by simp [feed, start, hb]) hw

/-- **An object is read however it is laid out.** -/
theorem run_object {ms : List (String × List Char)} {w text : List Char} {filled : List (Option Json)} (hw : Blank w)
    (htext : ObjectText ms text) (h : Fits fields (fields.map fun _ => none) ms filled)
    (hcomplete : isComplete fields filled = true) :
    run (feed fields) (start fields) (utf8 (w ++ text)) = .done filled := by
  have hclose : feed fields ⟨.byName, filled, .after⟩ 0x7D = .done filled := by
    simp [feed, separate, isSpace, close, hcomplete]
  rw [utf8_append, run_append (run_start hw)]
  cases htext with
  | @empty x hx =>
    have hblank : run (feed fields) ⟨.byName, fields.map fun _ => none, .member⟩ (utf8 x) =
        .more ⟨.byName, fields.map fun _ => none, .member⟩ := run_blank (fun b hb => by simp [feed, hb]) hx
    cases h
    rw [utf8_cons, utf8_append]
    exact (run_cons rfl _).trans ((run_append hblank _).trans ((run_single _ _).trans (if_pos hcomplete)))
  | members hms =>
    rw [utf8_cons, utf8_append]
    refine (run_cons rfl _).trans (((leads_members hms h (.inl rfl)).run_eq rfl []).trans ?_)
    exact (run_single _ _).trans hclose

/-! ### Fields that come again -/

section
variable {slots : List (Option Json)} {name : String} {stage : Stage}

/-- A member with any well-formed value goes to its free target, or it is refused. -/
theorem gets_member {spelling v w x y z : List Char} (hv : WellFormed .value v) (hw : Blank w)
    (hname : Spelled spelling name.toList) (hx : Blank x) (hy : Blank y) (hz : Blank z)
    (hstage : stage = .member ∨ stage = .name) : Gets (feed fields) true ⟨.byName, slots, stage⟩
      (utf8 (w ++ '"' :: (spelling ++ '"' :: (x ++ ':' :: (y ++ (v ++ z)))))) fun t =>
        isTaken slots (fieldOf fields name) = false ∧
          ∃ u, t = ⟨.byName, stored slots u (fieldOf fields name), .after⟩ := by
  rw [utf8_member]
  cases htaken : isTaken slots (fieldOf fields name) with
  | true => exact .inr ⟨rfl, fails_of_scan (scan_bad_append (scan_head hw hname hstage htaken) _)⟩
  | false =>
    refine .before (run_head hw hname hx hy hstage htaken) ?_
    refine ((gets_value (due_due _ _ _) hv).blank ?_ hz).mono fun t ht => ⟨rfl, ht⟩
    rintro t ⟨u, rfl⟩ b hb
    exact feed_space_after hb

theorem isTaken_stored {i : Nat} (h : isTaken slots (some i) = true) (u : Json) (target : Option Nat) :
    isTaken (stored slots u target) (some i) = true := by
  cases target with
  | none => exact h
  | some j =>
    simp only [isTaken, stored, Option.bind_some, List.getElem?_set] at h ⊢
    split
    · split
      · rfl
      · next hj hlt => rw [List.getElem?_eq_none (by omega)] at h; cases h
    · exact h

/-- A field that is taken, together with how often it comes. -/
def occurrences (slots : List (Option Json)) (i : Nat) (name : String) (ms : List (String × List Char)) : Nat :=
  (isTaken slots (some i)).toNat + (ms.map (·.1)).count name

/-- A member that goes to its free target is counted there. -/
theorem occurrences_stored {i : Nat} {other : String} (found : fieldOf fields name = some i)
    (hlength : slots.length = fields.length) (hfree : isTaken slots (fieldOf fields other) = false) (u : Json)
    (v : List Char) (ms : List (String × List Char)) : occurrences slots i name ((other, v) :: ms) ≤
      occurrences (stored slots u (fieldOf fields other)) i name ms := by
  by_cases hname : other = name
  · subst hname
    have hi : i < slots.length := hlength ▸ (List.findIdx?_eq_some_iff_findIdx_eq.mp found).1
    have hnow : isTaken (stored slots u (some i)) (some i) = true := by
      simp [isTaken, stored, List.getElem?_set, hi]
    rw [found] at hfree ⊢
    simp [occurrences, hfree, hnow, Nat.add_comm]
  · have hcount : (((other, v) :: ms).map (·.1)).count name = (ms.map (·.1)).count name :=
      List.count_cons_of_ne hname
    have hmore : (isTaken slots (some i)).toNat ≤ (isTaken (stored slots u (fieldOf fields other)) (some i)).toNat := by
      cases h : isTaken slots (some i) with
      | false => exact Nat.zero_le _
      | true => exact Nat.le_of_eq (congrArg Bool.toNat (isTaken_stored h u _).symm)
    rw [occurrences, occurrences, hcount]
    exact Nat.add_le_add_right hmore _

theorem length_stored (u : Json) (target : Option Nat) : (stored slots u target).length = slots.length := by
  cases target with
  | none => rfl
  | some i => exact List.length_set

/-- Members are refused where a field comes again. -/
theorem fails_members {ms : List (String × List Char)} {cs : List Char} (hms : Members ms cs)
    (hformed : ∀ m ∈ ms, WellFormed .value m.2) {i : Nat} (found : fieldOf fields name = some i)
    (hlength : slots.length = fields.length) (hrepeated : 2 ≤ occurrences slots i name ms)
    (hstage : stage = .member ∨ stage = .name) : Fails (feed fields) ⟨.byName, slots, stage⟩ (utf8 cs) := by
  induction hms generalizing slots stage with
  | @one other spelling v w x y z hw hname hx hy hz =>
    rcases gets_member (hformed _ (List.mem_singleton.mpr rfl)) hw hname hx hy hz hstage with
      ⟨t, ⟨hfree, -⟩, -⟩ | ⟨-, h⟩
    · -- A single member does not make two.
      have hle := Nat.le_trans hrepeated (occurrences_stored found hlength hfree .null v [])
      have hbit := Bool.toNat_le (isTaken (stored slots .null (fieldOf fields other)) (some i))
      simp only [occurrences, List.map_nil, List.count_nil] at hle
      omega
    · exact h
  | @more other spelling v w x y z rest ms hw hname hx hy hz _ ih =>
    rw [utf8_members]
    rcases gets_member (hformed _ (List.mem_cons_self ..)) hw hname hx hy hz hstage with
      ⟨t, ⟨hfree, u, rfl⟩, hleads⟩ | ⟨-, h⟩
    · refine hleads.fails rfl (.cons rfl (ih (fun m hm => hformed m (List.mem_cons_of_mem _ hm)) ?_ ?_ (.inr rfl)))
      · rw [length_stored, hlength]
      · exact Nat.le_trans hrepeated (occurrences_stored found hlength hfree u v ms)
    · exact h.append rfl _

end

/-- **An object in which a field comes again is refused**, whatever its values are. -/
theorem scan_object_repeated {ms : List (String × List Char)} {w text : List Char} {name : String} (hw : Blank w)
    (htext : ObjectText ms text) (hformed : ∀ m ∈ ms, WellFormed .value m.2) (hname : name ∈ fields.map (·.name))
    (hrepeated : 2 ≤ (ms.map (·.1)).count name) :
    scan (feed fields) (start fields) (utf8 (w ++ text)) = .bad := by
  obtain ⟨f, hf, hfname⟩ := List.mem_map.mp hname
  obtain ⟨i, found⟩ : ∃ i, fieldOf fields name = some i :=
    ⟨_, List.findIdx?_eq_some_of_exists ⟨f, hf, beq_iff_eq.mpr hfname⟩⟩
  rw [utf8_append, scan_of_run (run_start hw)]
  cases htext with
  | empty => cases hrepeated
  | members hms =>
    rw [utf8_cons, utf8_append]
    have hfails : Fails (feed fields) ⟨.byName, fields.map fun _ => none, .member⟩ _ :=
      fails_members hms hformed found (List.length_map _) (Nat.le_add_left_of_le hrepeated) (.inl rfl)
    exact (scan_cons rfl _).trans (hfails _ rfl)

/-! ### Arrays -/

/-- How items change the slots from a place on. -/
inductive FitsByPlace (fields : List Field) :
    Nat → List (Option Json) → List (List Char) → List (Option Json) → Prop
  | nil {place : Nat} {slots : List (Option Json)} : FitsByPlace fields place slots [] slots
  | cons {place : Nat} {slots filled : List (Option Json)} {cs : List Char} {vs : List (List Char)} {v : Json}
    {f : Field} (field : fields[place]? = some f) (spelled : Spells v cs) (nested : Nested room v)
    (accepted : f.accepts v = true) (rest : FitsByPlace fields (place + 1) (slots.set place (some v)) vs filled) :
    FitsByPlace fields place slots (cs :: vs) filled

/-- A place whose value is written is a place of a field. -/
theorem FitsByPlace.lt_length {vs : List (List Char)} {cs : List Char} (hvs : Items vs cs) {place : Nat}
    {slots filled : List (Option Json)} (h : FitsByPlace fields place slots vs filled) : place < fields.length := by
  cases h with
  | nil => cases hvs
  | cons field => exact (List.getElem?_eq_some_iff.mp field).1

theorem leads_items {vs : List (List Char)} {cs : List Char} (hvs : Items vs cs) {place : Nat}
    {slots filled : List (Option Json)} (h : FitsByPlace fields place slots vs filled) {s : State}
    (hdue : Due fields s (.byPlace (place + 1)) slots (some place))
    (hspace : ∀ b, isSpace b = true → feed fields s b = .more s) :
    ∃ next, Leads (feed fields) s (utf8 cs) ⟨.byPlace next, filled, .after⟩ := by
  induction hvs generalizing place slots s with
  | one hw hx =>
    cases h with
    | cons field spelled nested accepted rest =>
      cases rest
      have hvalue := leads_spelled hdue field spelled nested accepted
      rw [utf8_append, utf8_append]
      exact ⟨_, .before (run_blank hspace hw) (hvalue.blank (fun _ => feed_space_after) hx)⟩
  | @more v w x rest vs hw hx hmore ih =>
    cases h with
    | @cons _ _ _ _ _ u f field spelled nested accepted others =>
      have hvalue := leads_spelled hdue field spelled nested accepted
      have hplace := others.lt_length hmore
      have hcomma : feed fields ⟨.byPlace (place + 1), slots.set place (some u), .after⟩ 0x2C =
          .more ⟨.byPlace (place + 2), slots.set place (some u), .due (some (place + 1))⟩ := by
        simp [feed, separate, isSpace, hplace]
      obtain ⟨next, hnext⟩ := ih others (due_due _ _ _) fun b hb => by simp [feed, hb]
      rw [utf8_items, utf8_append, utf8_append, List.append_assoc]
      refine ⟨next, .before (run_blank hspace hw) ?_⟩
      exact (hvalue.blank (fun _ => feed_space_after) hx).append rfl (.cons hcomma hnext)

/-- **An array of the first fields is read**, whatever the white space in it. -/
theorem run_array {vs : List (List Char)} {w text : List Char} {filled : List (Option Json)} (hw : Blank w)
    (htext : ArrayText vs text) (h : FitsByPlace fields 0 (fields.map fun _ => none) vs filled)
    (hcomplete : isComplete fields filled = true) :
    run (feed fields) (start fields) (utf8 (w ++ text)) = .done filled := by
  have hspace : ∀ b, isSpace b = true → feed fields ⟨.byPlace 0, fields.map fun _ => none, .item⟩ b =
      .more ⟨.byPlace 0, fields.map fun _ => none, .item⟩ := fun b hb => by simp [feed, hb]
  rw [utf8_append, run_append (run_start hw)]
  cases htext with
  | @empty x hx =>
    cases h
    rw [utf8_cons, utf8_append]
    have hblank := run_blank hspace hx
    exact (run_cons rfl _).trans ((run_append hblank _).trans ((run_single _ _).trans (if_pos hcomplete)))
  | items hvs =>
    obtain ⟨next, hnext⟩ := leads_items hvs h (due_item _) hspace
    have hclose : feed fields ⟨.byPlace next, filled, .after⟩ 0x5D = .done filled := by
      simp [feed, separate, isSpace, close, hcomplete]
    rw [utf8_cons, utf8_append]
    exact (run_cons rfl _).trans ((hnext.run_eq rfl []).trans ((run_single _ _).trans hclose))

end Record

end SwitchBench.Json
