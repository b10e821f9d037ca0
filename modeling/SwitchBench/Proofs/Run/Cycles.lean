import SwitchBench.Proofs.Run.Ticks
import SwitchBench.Proofs.Script.Lowering

/-! How a run goes through its cycles.

A run that nothing stops carries out the steps of its sequence in turn, as many times
over as the sequence asks for, and is then completed. What the sink and the console
answer makes no difference to that, and none to the commands: a line that selects a
switch does so before it commands anything, so that no line takes over the switch of
another one. -/
namespace SwitchBench

/-- How many ticks a run of the sequence takes. -/
def Sequence.duration (q : Sequence) : Nat := q.cycles.toNat * q.steps.length

/-! ### Where a run stands -/

/-- One more is the next place in the same round, or the first place in the next one. -/
theorem place_succ {n : Nat} (hn : 0 < n) (k : Nat) :
    if k % n + 1 < n then (k + 1) % n = k % n + 1 ∧ (k + 1) / n = k / n
    else (k + 1) % n = 0 ∧ (k + 1) / n = k / n + 1 := by
  have hround : k % n + n * (k / n) = k := Nat.mod_add_div k n
  split
  next hmore =>
    obtain ⟨hdiv, hmod⟩ := (Nat.div_mod_unique (a := k + 1) (d := k / n) (c := k % n + 1) hn).mpr
      ⟨by omega, hmore⟩
    exact ⟨hmod, hdiv⟩
  next hlast =>
    have hmod : k % n < n := Nat.mod_lt k hn
    obtain ⟨hdiv, hmod⟩ := (Nat.div_mod_unique (a := k + 1) (d := k / n + 1) (c := 0) hn).mpr
      ⟨by rw [Nat.mul_add]; omega, hn⟩
    exact ⟨hmod, hdiv⟩

/-- Among `c` rounds the next place is another of theirs, or a further round is left. -/
private theorem round_succ {k n c : Nat} (hn : 0 < n) (hk : k < c * n) :
    if k % n + 1 < n then (k + 1) % n = k % n + 1 ∧ (k + 1) / n = k / n ∧ k + 1 < c * n
    else (k + 1) % n = 0 ∧ (k + 1) / n = k / n + 1 ∧ (k + 1 < c * n ↔ k / n + 1 < c) := by
  have hlt : k / n < c := (Nat.div_lt_iff_lt_mul hn).mpr hk
  have hplace := place_succ hn k
  split at hplace
  next hmore =>
    rw [if_pos hmore]
    exact ⟨hplace.1, hplace.2, (Nat.div_lt_iff_lt_mul hn).mp (hplace.2 ▸ hlt)⟩
  next hlast =>
    rw [if_neg hlast]
    exact ⟨hplace.1, hplace.2, by rw [← hplace.2, Nat.div_lt_iff_lt_mul hn]⟩

theorem countUp_toNat {n : UInt32} (h : n.toNat < 4294967295) : (countUp n).toNat = n.toNat + 1 := by
  have hne : n ≠ 4294967295 := fun he => by rw [he] at h; exact Nat.lt_irrefl _ h
  rw [countUp, if_neg hne, UInt32.toNat_add]
  exact Nat.mod_eq_of_lt (by show n.toNat + 1 < 4294967296; omega)

namespace Execution

/-- Where a run of `q` stands that is to be completed and has ticked `k` times. -/
structure Stands (q : Sequence) (interval : UInt64) (k : Nat) (e : Execution) : Prop where
  sequence : e.sequence = q
  bounded : e.untilStopped = false
  waits : e.progress.interval = interval
  next : e.progress.next = k % q.steps.length
  cycles : e.progress.tally.cycles.toNat = k / q.steps.length
  status : e.status = if k < q.duration then .running else .completed

namespace Stands
variable {q : Sequence} {interval : UInt64} {k : Nat} {e : Execution}

/-- A run that has begun has not ticked. -/
theorem begun (hbounded : e.untilStopped = false) (hsteps : e.sequence.steps ≠ [])
    (hcycles : 0 < e.sequence.cycles.toNat) : Stands e.sequence e.progress.interval 0 e.start where
  sequence := rfl
  bounded := hbounded
  waits := rfl
  next := (Nat.zero_mod _).symm
  cycles := (Nat.zero_div _).symm
  status := by
    have hpos : 0 < e.sequence.duration := Nat.mul_pos hcycles (List.length_pos_iff.mpr hsteps)
    rw [if_pos hpos]
    exact if_neg (by simpa using hsteps)

theorem running (h : Stands q interval k e) (hk : k < q.duration) : e.status = .running := by
  rw [h.status, if_pos hk]

theorem not_running (h : Stands q interval k e) (hk : q.duration ≤ k) : e.status ≠ .running := by
  rw [h.status, if_neg (Nat.not_lt.mpr hk)]
  exact fun hc => RunStatus.noConfusion hc

/-- Selecting and counting do not move a run, unless the interlock stops it. -/
theorem count (h : Stands q interval k e) (current : Option SwitchId) {v : Verdict}
    (hv : ∀ m, v ≠ .fault m) : Stands q interval k ({ e with current := current }.count v) where
  sequence := by rw [count_sequence, h.sequence]
  bounded := by rw [count_untilStopped, h.bounded]
  waits := by rw [count_interval, h.waits]
  next := by rw [count_next, h.next]
  cycles := by rw [count_cycles, h.cycles]
  status := by rw [count_status _ hv, h.status]

/-- **Going on** leads from where a run stands after `k` ticks to where it stands after
one more; the last step of a round ends a cycle. -/
theorem advance (h : Stands q interval k e) (hsteps : q.steps ≠ []) (hk : k < q.duration) :
    Stands q interval (k + 1) e.advance.1 ∧ e.advance.2.map (·.cycles.toNat) =
      if k % q.steps.length = q.steps.length - 1 then some (k / q.steps.length + 1) else none := by
  have hpos : 0 < q.steps.length := List.length_pos_iff.mpr hsteps
  have hround := round_succ hpos hk
  have hmod : k % q.steps.length < q.steps.length := Nat.mod_lt k hpos
  have hadvance := advance_eq e
  rw [h.sequence, h.next] at hadvance
  split at hround
  next hmore =>
    obtain ⟨hnext, hcycles, hgoing⟩ := hround
    rw [if_pos hmore] at hadvance
    rw [hadvance, if_neg (show ¬k % q.steps.length = q.steps.length - 1 by omega)]
    exact ⟨⟨rfl, h.bounded, h.waits, hnext.symm, h.cycles.trans hcycles.symm,
      (h.running hk).trans (if_pos hgoing).symm⟩, rfl⟩
  next hlast =>
    obtain ⟨hnext, hcycles, hgoing⟩ := hround
    have hfewer : k / q.steps.length < q.cycles.toNat := (Nat.div_lt_iff_lt_mul hpos).mpr hk
    have hcount : e.cycled.cycles.toNat = k / q.steps.length + 1 := by
      rw [← h.cycles]
      exact countUp_toNat (by rw [h.cycles]; have := q.cycles.toNat_lt; omega)
    have hsated : q.cycles ≤ e.cycled.cycles ↔ ¬k + 1 < q.duration := by
      rw [UInt32.le_iff_toNat_le, hcount, Sequence.duration, hgoing, Nat.not_lt]
    rw [if_neg hlast] at hadvance
    rw [hadvance, if_pos (show k % q.steps.length = q.steps.length - 1 by omega)]
    refine ⟨⟨rfl, h.bounded, h.waits, hnext.symm, hcount.trans hcycles.symm, ?_⟩,
      congrArg some hcount⟩
    simp only [h.running hk, h.bounded, hsated, true_and, ite_not]

section
variable {σ : Type} (env : Surroundings σ) (hfree : ∀ c s, (env.sink c s).1 ≠ .error .interlock)
include hfree

/-- **A tick** carries out the step whose turn it is. -/
theorem tick (h : Stands q interval k e) (hsteps : q.steps ≠ []) (hk : k < q.duration) (s : σ) :
    ∃ st, q.steps[k % q.steps.length]? = some st ∧ Stands q interval (k + 1) (e.tick env s).2.1 ∧
      (e.tick env s).2.2 = (e.perform env st s).2.2 ∧
      (e.perform env st s).2.1 <+: (e.tick env s).1.events ∧
      (e.tick env s).1.commands = (e.command? st).toList ∧
      (e.tick env s).1.wait = st.delay?.getD interval ∧
      ((e.tick env s).1.cycle.map (·.cycles.toNat) =
        if k % q.steps.length = q.steps.length - 1 then some (k / q.steps.length + 1) else none) ∧
      (e.tick env s).2.1.current = e.selected st := by
  obtain ⟨st, hst⟩ : ∃ st, q.steps[k % q.steps.length]? = some st :=
    ⟨_, List.getElem?_eq_getElem (Nat.mod_lt k (List.length_pos_iff.mpr hsteps))⟩
  have hdue : e.sequence.steps[e.progress.next]? = some st := by rw [h.sequence, h.next, hst]
  obtain ⟨hcommands, hwait, -, hcurrent, -⟩ := tick_spec env s (h.running hk) hdue
  have hcounted := h.count (e.selected st) (perform_ne_fault env s hfree e st)
  obtain ⟨hstands, hcycle⟩ := hcounted.advance hsteps hk
  rw [h.waits] at hwait
  refine ⟨st, hst, ?_, ?_, ?_, hcommands, hwait, ?_, hcurrent⟩ <;>
    rw [tick_of_step env s (h.running hk) hdue]
  · exact hstands
  · exact ⟨_, (List.append_assoc ..).symm⟩
  · exact hcycle

/-- **Tick after tick** a run stands where it should. -/
theorem ticks (h : Stands q interval k e) (hsteps : q.steps ≠ []) {m : Nat}
    (hm : k + m ≤ q.duration) (s : σ) : Stands q interval (k + m) (e.ticks env m s).2.1 := by
  induction m generalizing k e s with
  | zero => exact h
  | succ m ih =>
    have hk : k < q.duration := by omega
    obtain ⟨st, -, hnext, -⟩ := h.tick env hfree hsteps hk s
    rw [ticks_succ env (h.running hk), show k + (m + 1) = k + 1 + m by omega]
    exact ih hnext (by omega) _

/-- After its last tick a run has no more of them. -/
theorem ticks_over (h : Stands q interval 0 e) (hsteps : q.steps ≠ []) {k : Nat}
    (hk : q.duration ≤ k) (s : σ) : e.ticks env k s = e.ticks env q.duration s := by
  have hlast := h.ticks env hfree hsteps (Nat.le_of_eq (Nat.zero_add _)) s
  have hover := hlast.not_running (Nat.le_of_eq (Nat.zero_add _).symm)
  rw [← Nat.add_sub_cancel' hk, ticks_add, ticks_of_not_running env hover, List.append_nil]

end

end Stands

/-! ### The commands -/

/-- The commands that steps stand for, carried out one after the other. -/
def issued (e : Execution) : List Step → List Command
  | [] => []
  | st :: rest => (e.command? st).toList ++ issued { e with current := e.selected st } rest

theorem issued_congr {e f : Execution} (hsequence : e.sequence = f.sequence)
    (hcurrent : e.current = f.current) (steps : List Step) : e.issued steps = f.issued steps := by
  induction steps generalizing e f with
  | nil => rfl
  | cons st rest ih =>
    have hcommand : e.command? st = f.command? st := by
      cases st <;> simp only [command?, hsequence, hcurrent]
    have hselected : e.selected st = f.selected st := by
      cases st <;> simp only [selected, hsequence, hcurrent]
    rw [issued, issued, hcommand, ih]
    · exact hsequence
    · exact hselected

/-- A line commands what it says, whichever switch was selected before it. -/
theorem issued_line {e : Execution} {a : Addition} (h : a.Sound e.sequence.aliases)
    (rest : List Step) : ∃ id, e.issued (a.steps ++ rest) =
      a.lowered e.sequence.aliases ++ { e with current := id }.issued rest := by
  obtain ⟨text, steps⟩ := a
  rcases h with hnone | ⟨hblock, hlabel⟩
  · dsimp only at hnone
    subst hnone
    refine ⟨e.current, ?_⟩
    unfold Addition.lowered
    split <;> rfl
  · unfold Addition.lowered Addition.addressee?
    rw [← hlabel]
    cases hblock with
    | @port label b n hb _ | @fastPort label b mode n hb _ _ =>
      refine ⟨some b.id, ?_⟩
      simp [issued, command?, selected, List.findSome?, List.filterMap, Step.alias?, Step.order?, hb]
    | @read label b p hb =>
      refine ⟨e.current, ?_⟩
      simp [issued, command?, selected, List.findSome?, List.filterMap, Step.alias?, Step.order?, hb]
    | delay _ | cycles _ | serial _ _ _ _ | finish => exact ⟨e.current, rfl⟩

/-- **Lines one after the other** command what each of them says. -/
theorem issued_lines {e : Execution} {lines : List Addition}
    (h : ∀ a ∈ lines, a.Sound e.sequence.aliases) :
    e.issued (lines.flatMap (·.steps)) = lines.flatMap (·.lowered e.sequence.aliases) := by
  induction lines generalizing e with
  | nil => rfl
  | cons a rest ih =>
    rw [List.flatMap_cons, List.flatMap_cons]
    obtain ⟨id, hid⟩ := issued_line (h a (List.mem_cons_self ..)) (rest.flatMap (·.steps))
    rw [hid]
    exact congrArg _ (ih fun l hl => h l (List.mem_cons_of_mem a hl))

section
variable {q : Sequence} {interval : UInt64} {k : Nat} {e : Execution} {σ : Type} (env : Surroundings σ)
  (hfree : ∀ c s, (env.sink c s).1 ≠ .error .interlock)
include hfree

/-- Within a round the ticks command what the steps from the one that is next on stand for. -/
theorem commands_ticks (h : Stands q interval k e) (hsteps : q.steps ≠ []) {m : Nat}
    (hm : k + m ≤ q.duration) (hround : k % q.steps.length + m ≤ q.steps.length) (s : σ) :
    (e.ticks env m s).1.flatMap Tick.commands =
      e.issued ((q.steps.drop (k % q.steps.length)).take m) := by
  induction m generalizing k e s with
  | zero => rfl
  | succ m ih =>
    have hk : k < q.duration := by omega
    obtain ⟨st, hst, hnext, -, -, hcommands, -, -, hcurrent⟩ := h.tick env hfree hsteps hk s
    have hdrop : q.steps.drop (k % q.steps.length) = st :: q.steps.drop (k % q.steps.length + 1) := by
      rw [List.drop_eq_getElem?_toList_append, hst]
      rfl
    rw [ticks_succ env (h.running hk), List.flatMap_cons, hcommands, hdrop, List.take_succ_cons, issued]
    congr 1
    -- Unless this was the last of the ticks, the round has another step.
    cases m with
    | zero => rfl
    | succ m =>
      have hturn := round_succ (List.length_pos_iff.mpr hsteps) hk
      rw [if_pos (by omega)] at hturn
      rw [ih hnext (by omega) (by omega), hturn.1]
      exact issued_congr (f := { e with current := e.selected st })
        (hnext.sequence.trans h.sequence.symm) hcurrent _

/-- **Round after round** the ticks command what the lines say. -/
theorem commands_rounds {lines : List Addition} (hlines : lines.flatMap (·.steps) = q.steps)
    (hsound : ∀ a ∈ lines, a.Sound q.aliases) (hsteps : q.steps ≠ []) {j c : Nat}
    (h : Stands q interval (j * q.steps.length) e) (hc : j + c ≤ q.cycles.toNat) (s : σ) :
    (e.ticks env (c * q.steps.length) s).1.flatMap Tick.commands =
      (List.replicate c (lines.flatMap (·.lowered q.aliases))).flatten := by
  induction c generalizing j e s with
  | zero => rw [Nat.zero_mul]; rfl
  | succ c ih =>
    have hround : j * q.steps.length + q.steps.length ≤ q.duration := by
      rw [← Nat.succ_mul]
      exact Nat.mul_le_mul_right _ (by omega)
    have hnext := h.ticks env hfree hsteps hround s
    rw [← Nat.succ_mul] at hnext
    -- Whoever was selected when the round began, its commands are those of the lines.
    have hissued : e.issued q.steps = lines.flatMap (·.lowered q.aliases) := by
      rw [← hlines, issued_lines (by rw [h.sequence]; exact hsound), h.sequence]
    have hfirst := commands_ticks env hfree h hsteps hround
      (Nat.le_of_eq (by rw [Nat.mul_mod_left, Nat.zero_add])) s
    rw [Nat.mul_mod_left, List.drop_zero, List.take_length, hissued] at hfirst
    rw [Nat.succ_mul, Nat.add_comm, ticks_add, List.flatMap_append, List.replicate_succ,
      List.flatten_cons, hfirst]
    exact congrArg _ (ih hnext (by omega) _)

end

end Execution

/-- **A run goes through its script as often as the script asks for.** Started anew, a run
that is not to go on until it is stopped and that the interlock does not stop is running
for as many ticks as its cycles have steps, and is then completed. The `k`-th tick, from 0,
carries out the step at `k` modulo their number, waits for the length of a delay and
otherwise for the interval, and ends cycle `k / n + 1` exactly when the step is the last
one. In every cycle each line commands the switch of the alias that it names. -/
theorem Execution.start_ticks {text : List Char} {e : Execution}
    (hsequence : e.sequence = (Reading.ofText text).sequence) (hbounded : e.untilStopped = false)
    (hsteps : e.sequence.steps ≠ []) {σ : Type} (env : Surroundings σ)
    (hfree : ∀ c s, (env.sink c s).1 ≠ .error .interlock) (s : σ) :
    let n := e.sequence.steps.length
    let total := e.sequence.cycles.toNat * n
    let after (k : Nat) := e.start.ticks env k s
    let lines := Reading.additions .start (Text.lines text)
    0 < e.sequence.cycles.toNat ∧
      (∀ k, (after k).2.1.status = if k < total then .running else .completed) ∧
      (∀ k, total ≤ k → after k = after total) ∧
      (∀ k, k < total → ∃ st t, e.sequence.steps[k % n]? = some st ∧
        (after (k + 1)).1 = (after k).1 ++ [t] ∧
        ((after k).2.1.perform env st (after k).2.2).2.1 <+: t.events ∧
        (after (k + 1)).2.2 = ((after k).2.1.perform env st (after k).2.2).2.2 ∧
        t.wait = st.delay?.getD e.progress.interval ∧
        t.cycle.map (·.cycles.toNat) = if k % n = n - 1 then some (k / n + 1) else none) ∧
      lines.map (·.text) = Text.lines text ∧ lines.flatMap (·.steps) = e.sequence.steps ∧
      (∀ a ∈ lines, a.steps.any Step.isOrder = true →
        ∃ id, a.addressee? e.sequence.aliases = some id) ∧
      (after total).1.flatMap Tick.commands = (List.replicate e.sequence.cycles.toNat
        (lines.flatMap (·.lowered e.sequence.aliases))).flatten := by
  intro n total after lines
  have hwell : e.sequence.WellFormed := hsequence ▸ Reading.ofText_wellFormed text
  have hlines : lines.flatMap (·.steps) = e.sequence.steps := by
    rw [hsequence]
    exact Reading.flatMap_steps_additions .start 1 _
  have hsound : ∀ a ∈ lines, a.Sound e.sequence.aliases := by
    intro a ha
    rw [hsequence]
    exact Reading.sound_of_mem_additions (fun _ he => absurd he List.not_mem_nil)
      (fun _ h => Text.not_mem_lines h) ha
  have hbegun : Stands e.sequence e.progress.interval 0 e.start :=
    Stands.begun hbounded hsteps hwell.cycles_pos
  have hstands : ∀ k, k ≤ total → Stands e.sequence e.progress.interval k (after k).2.1 := by
    intro k hk
    have hk' := hbegun.ticks env hfree hsteps ((Nat.zero_add k).symm ▸ hk) s
    rwa [Nat.zero_add] at hk'
  have hover : ∀ k, total ≤ k → after k = after total := fun k hk =>
    hbegun.ticks_over env hfree hsteps hk s
  refine ⟨hwell.cycles_pos, fun k => ?_, hover, fun k hk => ?_,
    Reading.map_text_additions .start _, hlines, fun a ha => (hsound a ha).addressee, ?_⟩
  · rcases Nat.lt_or_ge k total with hk | hk
    · exact (hstands k (Nat.le_of_lt hk)).status
    · have hlast : (after total).2.1.status = if total < total then .running else .completed :=
        (hstands total (Nat.le_refl _)).status
      rw [hover k hk, hlast, if_neg (Nat.lt_irrefl _), if_neg (Nat.not_lt.mpr hk)]
  · have hat := hstands k (Nat.le_of_lt hk)
    obtain ⟨st, hst, -, hworld, hevents, -, hwait, hcycle, -⟩ := hat.tick env hfree hsteps hk (after k).2.2
    have hone : after (k + 1) = ((after k).1 ++ [((after k).2.1.tick env (after k).2.2).1],
        ((after k).2.1.tick env (after k).2.2).2) := by
      show e.start.ticks env (k + 1) s = _
      rw [ticks_add, ticks_succ env (hat.running hk)]
      rfl
    exact ⟨st, _, hst, by rw [hone], hevents, by rw [hone]; exact hworld, hwait, hcycle⟩
  · exact commands_rounds env hfree hlines hsound hsteps (j := 0) (by rwa [Nat.zero_mul])
      (Nat.le_of_eq (Nat.zero_add _)) s

/-- A script that connects a port twice. -/
def onTwice : List Char :=
  "switch a = \"COM7\" \"3141\"\nrepeat 2\nmain:\nport a.p1\ndelay 5ms".toList

/-- Surroundings in which no switch answers. -/
def Surroundings.silent : Surroundings Unit where
  sink c s := (.error (.noResponse c.id), s)
  console := none
  crashes _ _ := false

theorem Execution.start_ticks_onTwice :
    let e := ready (Reading.ofText onTwice).sequence 1 false
    e.sequence.steps ≠ [] ∧
      (e.start.ticks .silent 7 ()).2.1.status = .running ∧
      (e.start.ticks .silent 8 ()).2.1.status = .completed ∧
      (e.start.ticks .silent 8 ()).1.flatMap Tick.commands =
        [.port ⟨"COM7"⟩ 1, .port ⟨"COM7"⟩ 1] := by
  have hsteps : (Reading.ofText onTwice).sequence.steps ≠ [] := by decide
  obtain ⟨-, hstatus, -, -, -, -, -, hcommands⟩ :=
    start_ticks (e := ready (Reading.ofText onTwice).sequence 1 false) rfl rfl hsteps .silent
      (fun _ _ h => by cases h) ()
  exact ⟨hsteps, hstatus 7, hstatus 8, hcommands⟩

end SwitchBench
