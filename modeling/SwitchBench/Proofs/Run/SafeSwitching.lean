import Mathlib.Data.List.Nodup
import SwitchBench.Proofs.Run.Ticks
import SwitchBench.Proofs.Script.Blocks
import SwitchBench.Proofs.Script.Switching

/-! What a passed check is worth when the batch is run.

The ticks of a cycle follow the steps one by one (`Shadows`): a tick sets the port of a
switch exactly when its step is a port step and the latest selection is of that switch,
and it lasts as long as its step at least. So the ports that a switch is set to in a
cycle, and the time between them, are those that the rules of safe switching speak of. -/
namespace SwitchBench

open Step (Untouched)

/-- Whether an alias stands for a switch. -/
def Aliases.standsFor (as : Aliases) (id : SwitchId) (label : String) : Bool :=
  (as.get? label).map (·.id) == some id

/-! ### Steps that select first -/

/-- Selections are of declared aliases, and ports come after a selection. -/
def Guided (as : Aliases) : Bool → List Step → Prop
  | _, [] => True
  | seen, st :: rest => (∀ label, st = .select label → ∃ b, as.get? label = some b) ∧
    (∀ n, st = .port n → seen = true) ∧ Guided as (st.addresses (fun _ => true) seen) rest

theorem Blocks.guided {as : Aliases} {steps : List Step} (h : Blocks as steps) (seen : Bool) :
    Guided as seen steps := by
  induction h generalizing seen with
  | nil => trivial
  | cons hblock _ ih =>
    cases hblock with
    | port hb _ => exact ⟨by simp [hb], by simp, by simp, by simp [Step.addresses], ih true⟩
    | fastPort hb _ _ =>
      exact ⟨by simp [hb], by simp, by simp, by simp, by simp, by simp [Step.addresses], ih true⟩
    | delay _ | read _ _ | cycles _ | serial _ _ _ _ | finish => exact ⟨by simp, by simp, ih seen⟩

/-! ### Ticks that follow steps -/

/-- Ticks that carry out steps, as far as one switch is concerned. -/
inductive Shadows (own : String → Bool) (id : SwitchId) : Bool → List Step → List Tick → Prop
  | ended {mine : Bool} {steps : List Step} : Shadows own id mine steps []
  | step {mine : Bool} {st : Step} {rest : List Step} {t : Tick} {ts : List Tick}
    (lasts : st.pause ≤ t.wait.toNat)
    (sets : ∀ n, .port id n ∈ t.commands ↔ st = .port n ∧ mine = true)
    (follows : Shadows own id (st.addresses own mine) rest ts) :
    Shadows own id mine (st :: rest) (t :: ts)

namespace Shadows
variable {own : String → Bool} {id : SwitchId}

/-- Ticks cut in two follow steps cut in two. -/
theorem split {mine : Bool} {steps : List Step} {before : List Tick} {t : Tick} {after : List Tick}
    (h : Shadows own id mine steps (before ++ t :: after)) :
    ∃ front st rest, steps = front ++ st :: rest ∧ front.length = before.length ∧
      Shadows own id mine front before ∧
      Shadows own id (front.foldl (Step.addresses own) mine) (st :: rest) (t :: after) := by
  induction before generalizing mine steps with
  | nil =>
    cases h with
    | step lasts sets follows => exact ⟨[], _, _, rfl, rfl, .ended, .step lasts sets follows⟩
  | cons u before ih =>
    cases h with
    | step lasts sets follows =>
      obtain ⟨front, st, rest, rfl, hlength, hfront, hrest⟩ := ih follows
      refine ⟨_ :: front, st, rest, rfl, ?_, .step lasts sets hfront, hrest⟩
      rw [List.length_cons, hlength, List.length_cons]

/-- Steps without a tick for a port leave the port alone. -/
theorem untouched {mine : Bool} {steps : List Step} {ts : List Tick}
    (h : Shadows own id mine steps ts) (hlength : steps.length = ts.length)
    (hnone : ∀ t ∈ ts, ∀ n, .port id n ∉ t.commands) : Untouched own mine steps := by
  induction h with
  | ended =>
    rw [List.length_eq_zero_iff.mp hlength]
    trivial
  | @step mine st rest t ts lasts sets follows ih =>
    refine ⟨fun n hn => ?_, ih (by simpa using hlength) fun u hu => hnone u (List.mem_cons_of_mem _ hu)⟩
    cases mine with
    | false => rfl
    | true => exact absurd ((sets n).mpr ⟨hn, rfl⟩) (hnone t (List.mem_cons_self ..) n)

theorem pause_le {mine : Bool} {steps : List Step} {ts : List Tick}
    (h : Shadows own id mine steps ts) (hlength : steps.length = ts.length) :
    (steps.map Step.pause).sum ≤ (ts.map fun t => t.wait.toNat).sum := by
  induction h with
  | ended => rw [List.length_eq_zero_iff.mp hlength]; exact Nat.le_refl _
  | step lasts sets follows ih =>
    simp only [List.map_cons, List.sum_cons]
    exact Nat.add_le_add lasts (ih (by simpa using hlength))

/-- **Two ports in a row** that ticks set are those of two port steps, between which no
step sets a port of the switch. -/
theorem ports_between {steps : List Step} {before between after : List Tick} {t u : Tick} {p q : UInt8}
    (h : Shadows own id false steps (before ++ t :: (between ++ u :: after)))
    (ht : .port id p ∈ t.commands) (hu : .port id q ∈ u.commands)
    (hnone : ∀ v ∈ between, ∀ n, .port id n ∉ v.commands) :
    ∃ front middle rest, steps = front ++ .port p :: (middle ++ .port q :: rest) ∧
      front.foldl (Step.addresses own) false = true ∧ middle.foldl (Step.addresses own) true = true ∧
      Untouched own true middle ∧
      (middle.map Step.pause).sum ≤ (between.map fun v => v.wait.toNat).sum := by
  obtain ⟨front, st, rest, rfl, -, -, hrest⟩ := h.split
  cases hrest with
  | step lasts sets follows =>
    obtain ⟨rfl, hmine⟩ := (sets p).mp ht
    rw [hmine] at follows
    obtain ⟨middle, st, rest, rfl, hlength, hmiddle, hlast⟩ := follows.split
    cases hlast with
    | step _ sets _ =>
      obtain ⟨rfl, hown⟩ := (sets q).mp hu
      exact ⟨front, middle, rest, rfl, hmine, hown, hmiddle.untouched hlength hnone,
        hmiddle.pause_le hlength⟩

end Shadows

/-! ### Aliases of a switch -/

/-- Who is addressed in the end has been all along or was selected. -/
theorem Step.select_of_addresses {own : String → Bool} {steps : List Step} {mine : Bool}
    (h : steps.foldl (Step.addresses own) mine = true) :
    mine = true ∨ ∃ label, .select label ∈ steps ∧ own label = true := by
  induction steps generalizing mine with
  | nil => exact .inl h
  | cons st rest ih =>
    rcases ih h with hst | ⟨label, hlabel, hown⟩
    · cases st with
      | select label => exact .inr ⟨label, List.mem_cons_self .., hst⟩
      | _ => exact .inl hst
    · exact .inr ⟨label, List.mem_cons_of_mem _ hlabel, hown⟩

/-- Once addressed from the outset, a switch is addressed all the more. -/
theorem Step.addresses_mono {own : String → Bool} {steps : List Step} {a b : Bool}
    (hab : a = true → b = true) (h : steps.foldl (Step.addresses own) a = true) :
    steps.foldl (Step.addresses own) b = true := by
  induction steps generalizing a b with
  | nil => exact hab h
  | cons st rest ih =>
    apply ih _ h
    cases st with
    | select label => exact fun h => h
    | _ => exact hab

/-- Where no two aliases stand for one switch, an alias of a switch is its only one. -/
theorem Aliases.standsFor_eq {as : Aliases} (hids : (as.entries.map fun e => e.2.id).Nodup)
    {id : SwitchId} {label : String} (h : as.standsFor id label = true) :
    as.standsFor id = fun l => l == label := by
  have hbound : ∀ l, as.standsFor id l = true → ∃ b, (l, b) ∈ as.entries ∧ b.id = id := by
    intro l hl
    obtain ⟨b, hb, hid⟩ := Option.map_eq_some_iff.mp (beq_iff_eq.mp hl)
    exact ⟨b, mem_of_get? hb, hid⟩
  funext l
  apply Bool.eq_iff_iff.mpr
  constructor
  · intro hl
    obtain ⟨b, hb, hid⟩ := hbound label h
    obtain ⟨c, hc, hid'⟩ := hbound l hl
    have heq := List.inj_on_of_nodup_map hids hc hb (hid'.trans hid.symm)
    exact beq_iff_eq.mpr (congrArg Prod.fst heq)
  · intro hl
    rw [beq_iff_eq.mp hl]
    exact h

namespace Execution
variable {σ : Type} (env : Surroundings σ)

theorem command?_port {e : Execution} {st : Step} {id : SwitchId} {n : UInt8} :
    .port id n ∈ (e.command? st).toList ↔ st = .port n ∧ e.current = some id := by
  cases st with
  | port k =>
    cases hcurrent : e.current <;> simp [command?, hcurrent, eq_comm, and_comm]
  | speed m => cases hcurrent : e.current <;> simp [command?, hcurrent]
  | read label p => cases hb : e.sequence.aliases.get? label <;> simp [command?, hb]
  | _ => simp [command?]

/-- After a selection a switch is selected when it is addressed, -/
theorem selected_eq_iff {e : Execution} {st : Step} {id : SwitchId} {seen mine : Bool}
    (hselect : ∀ label, st = .select label → ∃ b, e.sequence.aliases.get? label = some b)
    (hseen : seen = true → (e.current = some id ↔ mine = true))
    (h : st.addresses (fun _ => true) seen = true) :
    e.selected st = some id ↔ st.addresses (e.sequence.aliases.standsFor id) mine = true := by
  cases st with
  | select label =>
    obtain ⟨b, hb⟩ := hselect label rfl
    simp [selected, hb, Step.addresses, Aliases.standsFor]
  | _ => exact hseen h

/-- and before any selection it is not. -/
theorem not_addresses {st : Step} {own : String → Bool} {seen mine : Bool}
    (hunseen : seen = false → mine = false) (h : st.addresses (fun _ => true) seen = false) :
    st.addresses own mine = false := by
  cases st with
  | select label => cases h
  | _ => exact hunseen h

/-- **The ticks of a cycle follow its steps.** -/
theorem shadows_ticks (id : SwitchId) (n : Nat) {e : Execution} (s : σ) {seen mine : Bool}
    (hle : n ≤ e.sequence.steps.length - e.progress.next)
    (hguided : Guided e.sequence.aliases seen (e.sequence.steps.drop e.progress.next))
    (hseen : seen = true → (e.current = some id ↔ mine = true)) (hunseen : seen = false → mine = false) :
    Shadows (e.sequence.aliases.standsFor id) id mine (e.sequence.steps.drop e.progress.next)
      (e.ticks env n s).1 := by
  induction n generalizing e s seen mine with
  | zero => exact .ended
  | succ n ih =>
    by_cases hrun : e.status = .running
    · have hlt : e.progress.next < e.sequence.steps.length := by omega
      obtain ⟨st, hst⟩ : ∃ st, e.sequence.steps[e.progress.next]? = some st :=
        ⟨_, List.getElem?_eq_getElem hlt⟩
      have hdrop : e.sequence.steps.drop e.progress.next =
          st :: e.sequence.steps.drop (e.progress.next + 1) := by
        rw [List.drop_eq_getElem_cons hlt]
        rw [List.getElem?_eq_getElem hlt] at hst
        rw [Option.some.inj hst]
      obtain ⟨hcommands, hwait, hsequence, hcurrent, hnext⟩ := tick_spec env s hrun hst
      rw [hdrop] at hguided ⊢
      obtain ⟨hselect, hport, hrest⟩ := hguided
      rw [ticks_succ env hrun]
      refine .step ?_ ?_ ?_
      · rw [hwait]
        cases st with
        | delay ms => exact Nat.le_refl _
        | _ => exact Nat.zero_le _
      · intro k
        rw [hcommands, command?_port]
        exact and_congr_right fun he => hseen (hport k he)
      · by_cases hmore : e.progress.next + 1 < e.sequence.steps.length
        · rw [if_pos hmore] at hnext
          have hfollows := @ih (e.tick env s).2.1 (e.tick env s).2.2
            (st.addresses (fun _ => true) seen) (st.addresses (e.sequence.aliases.standsFor id) mine)
          rw [hsequence, hnext, hcurrent] at hfollows
          exact hfollows (by omega) hrest (selected_eq_iff hselect hseen) (not_addresses hunseen)
        · have hn : n = 0 := by omega
          rw [hn]
          exact .ended
    · rw [ticks_of_not_running env hrun]
      exact .ended

end Execution

/-- **A batch that passes the check switches safely**, whatever the sink does. Take one
cycle of a script whose aliases stand for different switches, and two ports `p` and `q`
in a row that it sets a switch to. One of them is 0 or they are equal; and from the one
to the other a second passes, unless they are all the activity on the switch. -/
theorem Execution.ticks_safe {text : List Char}
    (hids : ((Reading.ofText text).sequence.aliases.entries.map fun e => e.2.id).Nodup)
    (hpassed : (Reading.ofText text).sequence.violation? = none) {σ : Type} (env : Surroundings σ)
    {e : Execution} (hsequence : e.sequence = (Reading.ofText text).sequence)
    (hfirst : e.progress.next = 0) (s : σ) {id : SwitchId}
    {before between after : List Tick} {t u : Tick} {p q : UInt8}
    (hticks : (e.ticks env e.sequence.steps.length s).1 = before ++ t :: (between ++ u :: after))
    (ht : .port id p ∈ t.commands) (hu : .port id q ∈ u.commands)
    (hnone : ∀ v ∈ between, ∀ n, .port id n ∉ v.commands) :
    (p = 0 ∨ q = 0 ∨ p = q) ∧
      (1000 ≤ ((t :: between).map fun v => v.wait.toNat).sum ∨
        ∃ label b, e.sequence.aliases.get? label = some b ∧ b.id = id ∧
          Safety.group? (Safety.runs e.sequence.steps) label = some [.port p, .port q]) := by
  have hguided := (Reading.ofText_wellFormed text).blocks.guided false
  rw [← hsequence] at hids hpassed hguided
  have hfollows := Execution.shadows_ticks env id (e := e) (n := e.sequence.steps.length) s (by omega)
    (by rw [hfirst]; exact hguided) (fun h => Bool.noConfusion h) (fun _ => rfl)
  rw [hfirst, List.drop_zero, hticks] at hfollows
  obtain ⟨front, middle, rest, hsteps, hfront, hmiddle, huntouched, hpause⟩ :=
    hfollows.ports_between ht hu hnone
  obtain ⟨label, hlabel, hown⟩ := (Step.select_of_addresses hfront).resolve_left Bool.false_ne_true
  obtain ⟨b, hb, hid⟩ := Option.map_eq_some_iff.mp (beq_iff_eq.mp hown)
  rw [Aliases.standsFor_eq hids hown] at hfront hmiddle huntouched
  obtain ⟨first, hstart, -⟩ := Safety.activity_append_port p (middle ++ .port q :: rest) front
    (Step.addresses_mono (fun _ => rfl) hfront)
  obtain ⟨delays, hend, hdelays⟩ := Safety.activity_append_port q rest middle hmiddle
  obtain ⟨hall, hsum⟩ := hdelays huntouched
  have hmem : .select label ∈ e.sequence.steps := by
    rw [hsteps]
    exact List.mem_append_left _ hlabel
  have hgroup := Safety.group?_of_select hmem
  rw [hsteps, hstart, hend, ← hsteps] at hgroup
  obtain ⟨hports, htime⟩ := Safety.broken?_between (Sequence.broken?_of_violation? hpassed hb hgroup) hall
  refine ⟨hports, htime.imp (fun hlong => ?_) fun halone => ⟨label, b, hb, hid, hgroup.trans (by rw [halone])⟩⟩
  rw [List.map_cons, List.sum_cons]
  calc 1000 ≤ (delays.map Safety.Activity.pause).sum := hlong
    _ ≤ (middle.map Step.pause).sum := hsum
    _ ≤ (between.map fun v => v.wait.toNat).sum := hpause
    _ ≤ t.wait.toNat + (between.map fun v => v.wait.toNat).sum := Nat.le_add_left ..

/-- A script that connects a port for a second. -/
def onForASecond : List Char :=
  "switch a = \"COM7\" \"3141\"\nmain:\nport a.p1\ndelay 1000ms\nport a.p0".toList

/-- Surroundings in which every command succeeds. -/
def Surroundings.obliging : Surroundings Unit where
  sink _ s := (.ok (.ofText acknowledgement), s)
  console := none
  crashes _ _ := false

theorem Execution.ticks_safe_onForASecond : ∃ before between after t u,
    ((ready (Reading.ofText onForASecond).sequence 1 false).start.ticks .obliging 5 ()).1 =
        before ++ t :: (between ++ u :: after) ∧
      .port ⟨"COM7"⟩ 1 ∈ t.commands ∧ .port ⟨"COM7"⟩ 0 ∈ u.commands ∧
      (1000 ≤ ((t :: between).map fun v => v.wait.toNat).sum ∨
        ∃ label b, (Reading.ofText onForASecond).sequence.aliases.get? label = some b ∧
          b.id = ⟨"COM7"⟩ ∧ Safety.group? (Safety.runs (Reading.ofText onForASecond).sequence.steps) label =
            some [.port 1, .port 0]) := by
  have hnone : ∀ v ∈ ([⟨1000, none, []⟩, ⟨1, none, []⟩] : List Tick), ∀ n,
      .port ⟨"COM7"⟩ n ∉ v.commands :=
    List.forall_mem_cons.mpr ⟨fun n => List.not_mem_nil,
      List.forall_mem_singleton.mpr fun n => List.not_mem_nil⟩
  have hticks : ((ready (Reading.ofText onForASecond).sequence 1 false).start.ticks .obliging 5 ()).1 =
      [⟨1, none, []⟩] ++
        ⟨1, none, [.dispatched (.port ⟨"COM7"⟩ 1) (.ok (.ofText acknowledgement))]⟩ ::
        ([⟨1000, none, []⟩, ⟨1, none, []⟩] ++
          ⟨1, some ⟨1, 0, 0⟩, [.dispatched (.port ⟨"COM7"⟩ 0) (.ok (.ofText acknowledgement)),
            .cycleCompleted ⟨1, 0, 0⟩]⟩ :: []) := rfl
  have hon : Command.port ⟨"COM7"⟩ 1 ∈ Tick.commands
      ⟨1, none, [.dispatched (.port ⟨"COM7"⟩ 1) (.ok (.ofText acknowledgement))]⟩ := by decide
  have hoff : Command.port ⟨"COM7"⟩ 0 ∈ Tick.commands
      ⟨1, some ⟨1, 0, 0⟩, [.dispatched (.port ⟨"COM7"⟩ 0) (.ok (.ofText acknowledgement)),
        .cycleCompleted ⟨1, 0, 0⟩]⟩ := by decide
  have hsafe := @ticks_safe onForASecond (by decide) (by decide) Unit .obliging
    (ready (Reading.ofText onForASecond).sequence 1 false).start rfl rfl () _ _ _ _ _ _ _ _
    hticks hon hoff hnone
  exact ⟨_, _, _, _, _, hticks, hon, hoff, hsafe.2⟩

end SwitchBench
