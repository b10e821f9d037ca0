import SwitchBench.Proofs.Json.Numbers

/-! Reading back the values that are written.

A value is read in its place, inside the frames that are open. Its last byte delivers
it, unless it is a number, which only the byte after it ends (`Walk.Reads`). From there
arrays and objects are read item by item. Numbers with a fraction are left out: they are
rounded on the way. -/
namespace SwitchBench.Json

/-- A value of at most so many levels, its numbers whole and of 64 bits and the members
of its objects in order of their names. -/
inductive Nested : Nat → Json → Prop
  | null {n : Nat} : Nested n .null
  | bool {n : Nat} (b : Bool) : Nested n (.bool b)
  | whole {n : Nat} {i : Int} (low : -9223372036854775808 ≤ i) (high : i < 18446744073709551616) :
    Nested n (.number (.whole i))
  | string {n : Nat} (s : String) : Nested n (.string s)
  | array {n : Nat} {items : List Json} (nested : ∀ v ∈ items, Nested n v) :
    Nested (n + 1) (.array items)
  | object {n : Nat} {members : List (String × Json)}
    (ordered : members.Pairwise fun a b => a.1 < b.1) (nested : ∀ m ∈ members, Nested n m.2) :
    Nested (n + 1) (.object members)

/-! ### Members in order -/

theorem place_append {ms : List (String × Json)} {name : String} (h : ∀ m ∈ ms, m.1 < name)
    (v : Json) : place name v ms = ms ++ [(name, v)] := by
  induction ms with
  | nil => rfl
  | cons m ms ih =>
    have hm : m.1 < name := h m (List.mem_cons_self ..)
    have hlt : ¬ name < m.1 := fun hlt => String.lt_irrefl _ (String.lt_trans hm hlt)
    have hne : ¬ name = m.1 := fun he => by
      rw [he] at hm
      exact String.lt_irrefl _ hm
    rw [place, if_neg hlt, if_neg hne, ih (fun m hm => h m (List.mem_cons_of_mem _ hm))]
    rfl

theorem foldl_place {before rest : List (String × Json)}
    (h : (before ++ rest).Pairwise fun a b => a.1 < b.1) :
    rest.foldl (fun ms m => place m.1 m.2 ms) before = before ++ rest := by
  induction rest generalizing before with
  | nil => exact (List.append_nil before).symm
  | cons m rest ih =>
    have hlast : ∀ a ∈ before, a.1 < m.1 := fun a ha =>
      (List.pairwise_append.mp h).2.2 a ha m (List.mem_cons_self ..)
    have hcut : before ++ m :: rest = (before ++ [m]) ++ rest := by simp
    rw [hcut] at h ⊢
    rw [List.foldl_cons, place_append hlast]
    exact ih h

/-- Members in order are kept as they are. -/
theorem ofMembers_of_ordered {ms : List (String × Json)}
    (h : ms.Pairwise fun a b => a.1 < b.1) : ofMembers ms = .object ms := by
  have hall : ms.foldl (fun ms m => place m.1 m.2 ms) [] = [] ++ ms := foldl_place h
  rw [ofMembers, hall, List.nil_append]

namespace Walk
variable {room : Nat}

/-! ### One value -/

/-- How a written value is read inside frames: with its last byte or, if it is a number,
with the byte after it. -/
inductive Reads (room : Nat) (frames : List Frame) : Json → Prop
  | closed {v : Json} {b : UInt8} {bytes : List UInt8} {w : Walk} (written : utf8 v.write = b :: bytes)
    (entered : enter (.keep room) frames b = some w)
    (delivered : run (feed (.keep room)) w bytes = deliver (.keep room) v frames) : Reads room frames v
  | counted {x : JsonNumber} {b : UInt8} {bytes : List UInt8} {w : Walk} {s : NumberScan} {k : Numeral}
    (written : utf8 (Json.number x).write = b :: bytes)
    (entered : enter (.keep room) frames b = some w)
    (scanned : run (feed (.keep room)) w bytes = .more ⟨frames, .number s⟩)
    (ended : ∀ e, NumberScan.ends e = true → s.feed e = .past k) (value : k.value? = some x) :
    Reads room frames (.number x)

/-- No value begins with white space, -/
theorem isSpace_of_enter {mode : Mode} {frames : List Frame} {b : UInt8} {w : Walk}
    (h : enter mode frames b = some w) : isSpace b = false := by
  apply Bool.eq_false_iff.mpr
  intro hb
  simp only [isSpace, Bool.or_eq_true, beq_iff_eq] at hb
  rcases hb with ((rfl | rfl) | rfl) | rfl <;> simp [enter, isDigit] at h

/-- nor with a closing bracket. -/
theorem feed_enter {mode : Mode} {frames : List Frame} {b : UInt8} {w : Walk}
    (h : enter mode frames b = some w) {phase : Phase} (hp : phase = .value ∨ phase = .item) :
    feed mode ⟨frames, phase⟩ b = .more w := by
  have hspace := isSpace_of_enter h
  have hclose : (b == 0x5D) = false := by
    apply Bool.eq_false_iff.mpr
    intro hb
    rw [beq_iff_eq.mp hb] at h
    simp [enter, isDigit] at h
  rcases hp with rfl | rfl <;> simp [feed, hspace, hclose, begin, h]

/-- A value inside a frame goes to the frame, and the byte after it separates. -/
theorem Reads.run_inside {f : Frame} {rest : List Frame} {v : Json} (h : Reads room (f :: rest) v)
    {phase : Phase} (hp : phase = .value ∨ phase = .item) {e : UInt8} (he : NumberScan.ends e = true) :
    run (feed (.keep room)) ⟨f :: rest, phase⟩ (utf8 v.write ++ [e]) =
      separate (.keep room) (f.add v :: rest) e := by
  cases h with
  | closed written entered delivered =>
    rw [written, List.cons_append, run_cons (feed_enter entered hp), run_append delivered, run_single]
    rfl
  | counted written entered scanned ended value =>
    rw [written, List.cons_append, run_cons (feed_enter entered hp), run_append scanned, run_single]
    simp [feed, ended e he, deliverNumber, Mode.keeps, value]

/-- The same, where more follows. -/
theorem Reads.run_inside_more {f : Frame} {rest : List Frame} {v : Json} (h : Reads room (f :: rest) v)
    {phase : Phase} (hp : phase = .value ∨ phase = .item) {e : UInt8} (he : NumberScan.ends e = true)
    {w : Walk} (hsep : separate (.keep room) (f.add v :: rest) e = .more w) (more : List UInt8) :
    run (feed (.keep room)) ⟨f :: rest, phase⟩ (utf8 v.write ++ e :: more) =
      run (feed (.keep room)) w more := by
  rw [show utf8 v.write ++ e :: more = (utf8 v.write ++ [e]) ++ more by simp]
  exact run_append ((h.run_inside hp he).trans hsep) more

/-! ### Strings and names -/

theorem utf8_quoted (s : String) :
    utf8 (quoted s) = 0x22 :: (utf8 (s.toList.flatMap escaped) ++ [0x22]) := by
  rw [quoted, List.cons_append, utf8_cons, utf8_append]
  rfl

theorem reads_string (frames : List Frame) (s : String) : Reads room frames (.string s) := by
  refine .closed (w := ⟨frames, .text .start⟩) (utf8_quoted s) rfl ?_
  have hinside := run_lift (feed (.keep room)) (fun t => ⟨frames, .text t⟩)
    (fun t b u htu => by simp [feed, htu]) (TextScan.run_inside room s)
  rw [run_append hinside, run_single]
  simp [feed, TextScan.feed_close]

/-- The name of a member leads to its value. -/
theorem run_name (ms : List (String × Json)) (previous name : String) (frames : List Frame)
    {phase : Phase} (hp : phase = .member ∨ phase = .name) (more : List UInt8) :
    run (feed (.keep room)) ⟨.object ms previous :: frames, phase⟩ (utf8 (quoted name) ++ 0x3A :: more) =
      run (feed (.keep room)) ⟨.object ms name :: frames, .value⟩ more := by
  have hquote : feed (.keep room) ⟨.object ms previous :: frames, phase⟩ 0x22 =
      .more ⟨.object ms previous :: frames, .nameText .start⟩ := by
    rcases hp with rfl | rfl <;> rfl
  have hinside := run_lift (feed (.keep room))
    (fun t => ⟨.object ms previous :: frames, .nameText t⟩)
    (fun t b u htu => by simp [feed, htu]) (TextScan.run_inside room name)
  have hclose : feed (.keep room)
      ⟨.object ms previous :: frames, .nameText ⟨.plain, (utf8 name.toList).reverse⟩⟩ 0x22 =
      .more ⟨.object ms name :: frames, .colon⟩ := by
    simp [feed, TextScan.feed_close, Frame.rename]
  rw [utf8_quoted, List.cons_append, run_cons hquote, List.append_assoc, run_append hinside,
    List.singleton_append, run_cons hclose]
  exact run_cons rfl more

/-! ### Arrays and objects -/

theorem run_items {frames : List Frame} {items : List Json}
    (h : ∀ v ∈ items, ∀ before, Reads room (.array before :: frames) v) (hne : items ≠ [])
    (before : List Json) {phase : Phase} (hp : phase = .value ∨ phase = .item) :
    run (feed (.keep room)) ⟨.array before :: frames, phase⟩ (utf8 (writeItems items)) =
      leave (.keep room) (.array (items.reverse ++ before) :: frames) := by
  induction items generalizing before phase with
  | nil => exact absurd rfl hne
  | cons v rest ih =>
    have hv := h v (List.mem_cons_self ..) before
    cases rest with
    | nil =>
      rw [writeItems, utf8_append]
      exact hv.run_inside hp rfl
    | cons u rest =>
      rw [writeItems, utf8_append, utf8_cons]
      show run _ _ (utf8 v.write ++ 0x2C :: utf8 (writeItems (u :: rest))) = _
      rw [hv.run_inside_more hp rfl rfl]
      show run (feed (.keep room)) ⟨.array (v :: before) :: frames, .value⟩ _ = _
      rw [ih (fun w hw => h w (List.mem_cons_of_mem _ hw)) (by simp) _ (.inl rfl)]
      simp

theorem run_members {frames : List Frame} {members : List (String × Json)}
    (h : ∀ m ∈ members, ∀ before name, Reads room (.object before name :: frames) m.2)
    (hne : members ≠ []) (before : List (String × Json)) (previous : String) {phase : Phase}
    (hp : phase = .member ∨ phase = .name) : ∃ last,
    run (feed (.keep room)) ⟨.object before previous :: frames, phase⟩ (utf8 (writeMembers members)) =
      leave (.keep room) (.object (members.reverse ++ before) last :: frames) := by
  induction members generalizing before previous phase with
  | nil => exact absurd rfl hne
  | cons m rest ih =>
    obtain ⟨name, v⟩ := m
    have hv := h (name, v) (List.mem_cons_self ..) before name
    cases rest with
    | nil =>
      refine ⟨name, ?_⟩
      rw [writeMembers, utf8_append, utf8_cons]
      show run _ _ (utf8 (quoted name) ++ 0x3A :: utf8 (v.write ++ ['\x7d'])) = _
      rw [run_name before previous name frames hp, utf8_append]
      exact hv.run_inside (.inl rfl) rfl
    | cons n rest =>
      obtain ⟨last, hlast⟩ := ih (fun w hw => h w (List.mem_cons_of_mem _ hw)) (by simp)
        ((name, v) :: before) name (.inr rfl)
      refine ⟨last, ?_⟩
      rw [writeMembers, utf8_append, utf8_cons, utf8_append, utf8_cons]
      show run _ _ (utf8 (quoted name) ++ 0x3A :: (utf8 v.write ++ 0x2C :: utf8 (writeMembers (n :: rest)))) = _
      rw [run_name before previous name frames hp, hv.run_inside_more (.inl rfl) rfl rfl]
      show run (feed (.keep room)) ⟨.object ((name, v) :: before) name :: frames, .name⟩ _ = _
      rw [hlast]
      simp

/-! ### Any value -/

/-- The first digit of a number is where a number is entered. -/
theorem enter_digit {b : UInt8} (h : isDigit b = true) (mode : Mode) (frames : List Frame) :
    enter mode frames b = some ⟨frames, .number (.ofDigit b)⟩ := by
  have hother : ∀ e : UInt8, isDigit e = false → (b == e) = false := by
    intro e he
    apply Bool.eq_false_iff.mpr
    intro hb
    rw [beq_iff_eq.mp hb, he] at h
    exact Bool.noConfusion h
  simp only [enter, hother 0x6E rfl, hother 0x74 rfl, hother 0x66 rfl, hother 0x2D rfl, h]
  rfl

theorem reads_whole (frames : List Frame) {i : Int} (low : -9223372036854775808 ≤ i)
    (high : i < 18446744073709551616) : Reads room frames (.number (.whole i)) := by
  have hlift : ∀ {s t : NumberScan} {bytes : List UInt8}, run NumberScan.feed s bytes = .more t →
      run (feed (.keep room)) ⟨frames, .number s⟩ bytes = .more ⟨frames, .number t⟩ :=
    run_lift (feed (.keep room)) (fun t => ⟨frames, .number t⟩) (fun t b u htu => by simp [feed, htu])
  cases i with
  | ofNat n =>
    obtain ⟨b, rest, s, hbytes, hdigit, hrun, hends⟩ := NumberScan.run_decimal false n
    have hlt : n < 18446744073709551616 := Int.ofNat_lt.mp high
    exact .counted hbytes (enter_digit hdigit _ frames) (hlift hrun) hends (Numeral.value?_decimal hlt)
  | negSucc n =>
    obtain ⟨b, rest, s, hbytes, hdigit, hrun, hends⟩ := NumberScan.run_decimal true (n + 1)
    have hle : n + 1 ≤ 9223372036854775808 := by omega
    have hwritten : utf8 (Json.number (.whole (.negSucc n))).write = 0x2D :: b :: rest := by
      show utf8 ('-' :: Text.decimal (n + 1)) = _
      rw [utf8_cons, hbytes]
      rfl
    have hfirst : NumberScan.feed .ofSign b =
        .more (NumberScan.ofWhole (NumberScan.columnAfter b) true [b.toNat - 0x30]) := by
      simp only [NumberScan.feed, NumberScan.ofSign, hdigit]
      rfl
    have henter : enter (.keep room) frames 0x2D = some ⟨frames, .number .ofSign⟩ := rfl
    exact .counted hwritten henter (hlift ((run_cons hfirst rest).trans hrun)) hends
      (Numeral.value?_minus hle)

/-- **A written value is read back**, in every place that leaves room for its levels. -/
theorem reads_of_nested {n : Nat} {v : Json} (h : Nested n v) :
    ∀ frames : List Frame, frames.length + n ≤ room → Reads room frames v := by
  induction h with
  | null => exact fun frames _ => .closed rfl rfl (by cases frames <;> rfl)
  | bool b => exact fun frames _ => by cases b <;> exact .closed rfl rfl (by cases frames <;> rfl)
  | whole low high => exact fun frames _ => reads_whole frames low high
  | string s => exact fun frames _ => reads_string frames s
  | @array n items _ ih =>
    intro frames hroom
    have hwritten : utf8 (Json.array items).write = 0x5B :: utf8 (writeItems items) := by
      rw [write, utf8_cons]
      rfl
    have henter : enter (.keep room) frames 0x5B = some ⟨.array [] :: frames, .item⟩ := by
      have hlt : frames.length < room := by omega
      simp [enter, isDigit, Mode.admits, hlt]
    refine .closed hwritten henter ?_
    by_cases hitems : items = []
    · subst hitems
      exact run_single _ _
    · have hreads : ∀ v ∈ items, ∀ before, Reads room (.array before :: frames) v :=
        fun v hv before => ih v hv _ (by rw [List.length_cons]; omega)
      rw [run_items hreads hitems [] (.inr rfl)]
      simp [leave, Mode.keeps, Frame.value]
  | @object n members ordered _ ih =>
    intro frames hroom
    have hwritten : utf8 (Json.object members).write = 0x7B :: utf8 (writeMembers members) := by
      rw [write, utf8_cons]
      rfl
    have henter : enter (.keep room) frames 0x7B = some ⟨.object [] "" :: frames, .member⟩ := by
      have hlt : frames.length < room := by omega
      simp [enter, isDigit, Mode.admits, hlt]
    refine .closed hwritten henter ?_
    by_cases hmembers : members = []
    · subst hmembers
      exact run_single _ _
    · have hreads : ∀ m ∈ members, ∀ before name, Reads room (.object before name :: frames) m.2 :=
        fun m hm before name => ih m hm _ (by rw [List.length_cons]; omega)
      obtain ⟨last, hlast⟩ := run_members hreads hmembers [] "" (.inl rfl)
      rw [hlast]
      simp [leave, Mode.keeps, Frame.value, ofMembers_of_ordered ordered]

end Walk

end SwitchBench.Json
