import SwitchBench.Proofs.Json.Values

/-! Reading back the records that are written.

A record is written as an object. Its reader takes each member to the slot of the field
that bears its name (`Fills`) and yields the slots at the closing brace, so that bytes
after it do not matter. -/
namespace SwitchBench.Json

/-- Neither an array nor an object. -/
def isScalar : Json → Bool
  | .array _ | .object _ => false
  | _ => true

theorem Nested.head_of_isScalar {n : Nat} {v : Json} (h : Nested n v) (hs : v.isScalar = true)
    {b : UInt8} {bytes : List UInt8} (hb : utf8 v.write = b :: bytes) :
    (b == 0x5B || b == 0x7B) = false := by
  cases h with
  | null => cases hb; rfl
  | bool x => cases x <;> cases hb <;> rfl
  | @whole _ i low high =>
    cases i with
    | ofNat n =>
      obtain ⟨d, rest, s, hbytes, hdigit, -⟩ := NumberScan.run_decimal false n
      rw [show utf8 (Json.number (.whole (.ofNat n))).write = utf8 (Text.decimal n) from rfl, hbytes] at hb
      cases hb
      apply Bool.eq_false_iff.mpr
      intro he
      rcases Bool.or_eq_true_iff.mp he with he | he <;>
        · rw [beq_iff_eq.mp he] at hdigit
          exact absurd hdigit (by decide)
    | negSucc n =>
      rw [show utf8 (Json.number (.whole (.negSucc n))).write = utf8 ('-' :: Text.decimal (n + 1)) from rfl,
        utf8_cons] at hb
      cases hb
      rfl
  | string s =>
    rw [show utf8 (Json.string s).write = utf8 (quoted s) from rfl, Walk.utf8_quoted] at hb
    cases hb
    rfl
  | array => cases hs
  | object => cases hs

namespace Record

/-- Taking members to the free slots of their fields. -/
inductive Fills (fields : List Field) :
    List (Option Json) → List (String × Json) → List (Option Json) → Prop
  | nil {slots : List (Option Json)} : Fills fields slots [] slots
  | cons {slots filled : List (Option Json)} {ms : List (String × Json)} {name : String} {v : Json}
    {i : Nat} {f : Field} (found : fields.findIdx? (fun f => f.name == name) = some i)
    (field : fields[i]? = some f) (free : slots[i]?.join = none) (accepted : f.accepts v = true)
    (scalar : f.scalar = true → v.isScalar = true) (nested : Nested room v)
    (rest : Fills fields (slots.set i (some v)) ms filled) : Fills fields slots ((name, v) :: ms) filled

variable {fields : List Field}

/-- The name of a field leads to its value. -/
theorem run_name {slots : List (Option Json)} {name : String} {i : Nat}
    (found : fields.findIdx? (fun f => f.name == name) = some i) (free : slots[i]?.join = none)
    {stage : Stage} (hstage : stage = .member ∨ stage = .name) (more : List UInt8) :
    run (feed fields) ⟨.byName, slots, stage⟩ (utf8 (quoted name) ++ 0x3A :: more) =
      run (feed fields) ⟨.byName, slots, .due (some i)⟩ more := by
  have hquote : feed fields ⟨.byName, slots, stage⟩ 0x22 = .more ⟨.byName, slots, .nameText .start⟩ := by
    rcases hstage with rfl | rfl <;> rfl
  have hinside := run_lift (feed fields) (fun t => (⟨.byName, slots, .nameText t⟩ : State))
    (fun t b u htu => by simp [feed, htu]) (TextScan.run_inside room name)
  have hclose : feed fields ⟨.byName, slots, .nameText ⟨.plain, (utf8 name.toList).reverse⟩⟩ 0x22 =
      .more ⟨.byName, slots, .colon (some i)⟩ := by
    simp [feed, TextScan.feed_close, found, free]
  rw [Walk.utf8_quoted, List.cons_append, run_cons hquote, List.append_assoc, run_append hinside,
    List.singleton_append, run_cons hclose]
  exact run_cons rfl more

/-- The value of a field goes to its slot, and the byte after it separates. -/
theorem run_value {slots : List (Option Json)} {i : Nat} {f : Field} {v : Json}
    (field : fields[i]? = some f) (accepted : f.accepts v = true)
    (scalar : f.scalar = true → v.isScalar = true) (nested : Nested room v) {e : UInt8}
    (he : NumberScan.ends e = true) :
    run (feed fields) ⟨.byName, slots, .due (some i)⟩ (utf8 v.write ++ [e]) =
      separate fields ⟨.byName, slots.set i (some v), .after⟩ e := by
  have hstore : ∀ w, store fields ⟨.byName, slots, .inside (some i) w⟩ (some i) v =
      some ⟨.byName, slots.set i (some v), .after⟩ := by
    intro w
    simp [store, field, accepted]
  have hmore : ∀ w b u, Walk.feed (.keep room) w b = .more u →
      feed fields ⟨.byName, slots, .inside (some i) w⟩ b = .more ⟨.byName, slots, .inside (some i) u⟩ := by
    intro w b u hb
    simp [feed, mode, hb]
  have henter : ∀ {b bytes w}, utf8 v.write = b :: bytes → Walk.enter (.keep room) [] b = some w →
      feed fields ⟨.byName, slots, .due (some i)⟩ b = .more ⟨.byName, slots, .inside (some i) w⟩ := by
    intro b bytes w written entered
    have hspace := Walk.isSpace_of_enter entered
    have hscalar : (f.scalar && (b == 0x5B || b == 0x7B)) = false := by
      cases hf : f.scalar with
      | false => rfl
      | true => rw [nested.head_of_isScalar (scalar hf) written]; rfl
    simp [feed, hspace, enter, field, hscalar, mode, entered]
  have hreads : Walk.Reads room [] v := Walk.reads_of_nested nested [] (by simp)
  cases hreads with
  | closed written entered delivered =>
    have hdone := run_lift_done (feed fields)
      (fun w => (⟨.byName, slots, .inside (some i) w⟩ : State))
      (.more ⟨.byName, slots.set i (some v), .after⟩) hmore
      (fun w b hb => by simp [feed, mode, hb, hstore]) delivered
    rw [written, List.cons_append, run_cons (henter written entered), run_append hdone, run_single]
    rfl
  | counted written entered scanned ended value =>
    have hinside := run_lift (feed fields)
      (fun w => (⟨.byName, slots, .inside (some i) w⟩ : State)) hmore scanned
    rw [written, List.cons_append, run_cons (henter written entered), run_append hinside, run_single]
    simp [feed, mode, Walk.feed, ended e he, Walk.deliverNumber, Mode.keeps, value, hstore]

/-- **A written record is read back**, up to its closing brace. -/
theorem run_members {slots filled : List (Option Json)} {ms : List (String × Json)}
    (h : Fills fields slots ms filled) (hne : ms ≠ []) (hcomplete : isComplete fields filled = true)
    {stage : Stage} (hstage : stage = .member ∨ stage = .name) :
    run (feed fields) ⟨.byName, slots, stage⟩ (utf8 (writeMembers ms)) = .done filled := by
  induction h generalizing stage with
  | nil => exact absurd rfl hne
  | @cons slots filled ms name v i f found field free accepted scalar nested rest ih =>
    cases ms with
    | nil =>
      cases rest
      rw [writeMembers, utf8_append, utf8_cons]
      show run _ _ (utf8 (quoted name) ++ 0x3A :: utf8 (v.write ++ ['\x7d'])) = _
      rw [run_name found free hstage, utf8_append]
      refine (run_value field accepted scalar nested rfl).trans ?_
      simp [separate, isSpace, close, hcomplete]
    | cons m ms =>
      rw [writeMembers, utf8_append, utf8_cons, utf8_append, utf8_cons]
      show run _ _ (utf8 (quoted name) ++ 0x3A :: (utf8 v.write ++ ([0x2C] ++ utf8 (writeMembers (m :: ms))))) = _
      have hvalue : run (feed fields) ⟨.byName, slots, .due (some i)⟩ (utf8 v.write ++ [0x2C]) =
          .more ⟨.byName, slots.set i (some v), .name⟩ := run_value field accepted scalar nested rfl
      rw [run_name found free hstage, ← List.append_assoc, run_append hvalue]
      exact ih (by simp) hcomplete (.inr rfl)

/-- The last byte of a written record yields its slots. -/
theorem run_of_fills {ms : List (String × Json)} {filled : List (Option Json)}
    (h : Fills fields (fields.map fun _ => none) ms filled) (hne : ms ≠ [])
    (hcomplete : isComplete fields filled = true) :
    run (feed fields) (start fields) (utf8 (Json.object ms).write) = .done filled := by
  have hwritten : utf8 (Json.object ms).write = 0x7B :: utf8 (writeMembers ms) := by
    rw [write, utf8_cons]
    rfl
  rw [hwritten]
  exact (run_cons rfl _).trans (run_members h hne hcomplete (.inl rfl))

/-- Whatever follows a written record, its slots are read. -/
theorem advance_of_fills {ms : List (String × Json)} {filled : List (Option Json)}
    (h : Fills fields (fields.map fun _ => none) ms filled) (hne : ms ≠ [])
    (hcomplete : isComplete fields filled = true) (more : List UInt8) :
    advance fields (start fields) (utf8 (Json.object ms).write ++ more) = .done filled :=
  advance_of_run (run_of_fills h hne hcomplete) more

theorem read_of_fills {ms : List (String × Json)} {filled : List (Option Json)}
    (h : Fills fields (fields.map fun _ => none) ms filled) (hne : ms ≠ [])
    (hcomplete : isComplete fields filled = true) (more : List UInt8) :
    read fields (utf8 (Json.object ms).write ++ more) = .record filled := by
  rw [read, advance_of_fills h hne hcomplete]

/-- The end of a stream makes no record. -/
theorem finish_ne_record (s : State) (slots : List (Option Json)) : finish fields s ≠ .record slots := by
  unfold finish
  split
  · exact fun h => Outcome.noConfusion h
  · split <;> exact fun h => Outcome.noConfusion h
  · split
    · exact fun h => Outcome.noConfusion h
    · split <;> exact fun h => Outcome.noConfusion h
    · exact fun h => Outcome.noConfusion h
  · exact fun h => Outcome.noConfusion h

/-- **What is read off a written record that may be cut off** are its slots, if anything. -/
theorem eq_of_read_prefix {ms : List (String × Json)} {filled slots : List (Option Json)}
    (h : Fills fields (fields.map fun _ => none) ms filled) (hne : ms ≠ [])
    (hcomplete : isComplete fields filled = true) {front : List UInt8}
    (hfront : front <+: utf8 (Json.object ms).write) (hread : read fields front = .record slots) :
    slots = filled := by
  obtain ⟨back, hback⟩ := hfront
  cases back with
  | nil =>
    have hwhole := read_of_fills h hne hcomplete []
    rw [← hback, List.append_nil, List.append_nil, hread] at hwhole
    exact Outcome.record.inj hwhole
  | cons b rest =>
    have hrun := run_of_fills h hne hcomplete
    rw [← hback] at hrun
    obtain ⟨t, ht⟩ := advance_of_run_append hrun (List.cons_ne_nil b rest)
    rw [read, ht] at hread
    exact absurd hread (finish_ne_record t slots)

end Record

end SwitchBench.Json
