import SwitchBench.Proofs.Run.Ticks
import SwitchBench.Proofs.Script.Addressees
import SwitchBench.Proofs.Switch.Orders

/-! What a bench makes of the steps of a run.

At every point of a run of a script the step that is due addresses the switch that the
script says (`Reached.addressed`). Where the switches of the script are in use and answer,
and nothing but the run acts on the bench, that goes on, and a step that is not for the
console fails exactly if it is beyond the model that is connected (`Reached.failure_perform`). -/
namespace SwitchBench

/-! ### Commands of steps -/

namespace Step
variable {st : Step} {id : SwitchId} {c : Command}

theorem id_of_order? (h : st.order? id = some c) : c.id = id := by
  cases st <;> cases h <;> rfl

theorem exists_order? (h : st.isOrder = true) (id : SwitchId) : ∃ c, st.order? id = some c := by
  cases st <;> first | exact ⟨_, rfl⟩ | cases h

/-- A model refuses what is beyond it. -/
theorem isSome_refusal? (h : st.order? id = some c) (m : Model) :
    (c.refusal? m).isSome = st.exceeds m := by
  cases st with
  | port n => cases h; cases hn : m.accepts n <;> simp [Command.refusal?, exceeds, hn]
  | speed mode => cases h; cases hs : m.hasSpeed <;> simp [Command.refusal?, exceeds, hs]
  | read label p =>
    cases h
    cases hp : p.isMeasurement <;> cases hm : m.hasMeters <;> simp [Command.refusal?, exceeds, hp, hm]
  | _ => cases h

end Step

namespace Addressed
variable {a : Addressed} {c : Command}

theorem command?_eq_some_iff : a.command? = some c ↔
    ∃ b, a.binding? = some b ∧ a.step.order? b.id = some c :=
  Option.bind_eq_some_iff

/-- Why the step fails where switches of these models are connected. -/
def refusal? (a : Addressed) (models : Roster Model) : Option SwitchError :=
  a.command?.bind fun c => (models.get? c.id).bind c.refusal?

/-- It fails for what is beyond the model of its switch, -/
theorem isSome_refusal?_iff {models : Roster Model} : (a.refusal? models).isSome = true ↔
    ∃ c m, a.command? = some c ∧ models.get? c.id = some m ∧ a.step.exceeds m = true := by
  simp only [Option.isSome_iff_exists, refusal?, Option.bind_eq_some_iff]
  constructor
  · rintro ⟨error, c, hc, m, hm, herror⟩
    obtain ⟨b, -, horder⟩ := command?_eq_some_iff.mp hc
    exact ⟨c, m, hc, hm, by rw [← Step.isSome_refusal? horder, herror]; rfl⟩
  · rintro ⟨c, m, hc, hm, hexceeds⟩
    obtain ⟨b, -, horder⟩ := command?_eq_some_iff.mp hc
    rw [← Step.isSome_refusal? horder] at hexceeds
    obtain ⟨error, herror⟩ := Option.isSome_iff_exists.mp hexceeds
    exact ⟨error, c, hc, m, hm, herror⟩

theorem isSome_refusal?_eq (models : Roster Model) :
    (a.refusal? models).isSome = a.binding?.any fun b => (models.get? b.id).any a.step.exceeds := by
  rw [Bool.eq_iff_iff, isSome_refusal?_iff]
  simp only [command?_eq_some_iff, Option.any_eq_true]
  constructor
  · rintro ⟨c, m, ⟨b, hb, hc⟩, hm, hexceeds⟩
    exact ⟨b, hb, m, Step.id_of_order? hc ▸ hm, hexceeds⟩
  · rintro ⟨b, hb, m, hm, hexceeds⟩
    have horder : a.step.isOrder = true := by
      cases hstep : a.step <;> first | rfl | (rw [hstep] at hexceeds; cases hexceeds)
    obtain ⟨c, hc⟩ := Step.exists_order? horder b.id
    exact ⟨c, m, ⟨b, hb, hc⟩, (Step.id_of_order? hc).symm ▸ hm, hexceeds⟩

/-- and says so. -/
theorem kind_of_refusal? {models : Roster Model} {e : SwitchError} (h : a.refusal? models = some e) :
    e.kind = .unsupported := by
  obtain ⟨c, -, h⟩ := Option.bind_eq_some_iff.mp h
  obtain ⟨m, -, h⟩ := Option.bind_eq_some_iff.mp h
  exact Command.kind_of_refusal? h

end Addressed

/-! ### Events of a tick -/

namespace Execution
variable {σ : Type} {env : Surroundings σ} {e : Execution} {st : Step} {s : σ}

theorem performSerial_event {action : SerialAction} {payload : String} {event : Event}
    (h : event ∈ (performSerial env action payload s).2.1) : (∃ path baud, event = .consoleOpened path baud) ∨
      (∃ text, event = .consoleWritten text) ∨ ∃ text, event = .consoleAwaited text := by
  unfold performSerial at h
  cases hconsole : env.console with
  | none => rw [hconsole] at h; cases h
  | some console =>
    rw [hconsole] at h
    cases action with
    | connect => exact .inl ⟨_, _, List.mem_singleton.mp h⟩
    | write => exact .inr (.inl ⟨_, List.mem_singleton.mp h⟩)
    | expect => exact .inr (.inr ⟨_, List.mem_singleton.mp h⟩)

/-- A step tells of its command, or of the console. -/
theorem perform_event {event : Event} (h : event ∈ (e.perform env st s).2.1) :
    (∃ c, e.command? st = some c ∧ event = .dispatched c (env.sink c s).1) ∨
      (event.command? = none ∧ ∀ place message, event ≠ .stepFailed place message) := by
  cases hc : e.command? st with
  | some c =>
    rw [perform_of_command env s hc] at h
    exact .inl ⟨c, rfl, List.mem_singleton.mp h⟩
  | none =>
    refine .inr ?_
    cases st with
    | serial action payload =>
      rcases performSerial_event (show event ∈ (performSerial env action payload s).2.1 from h) with
        ⟨path, baud, rfl⟩ | ⟨text, rfl⟩ | ⟨text, rfl⟩ <;> exact ⟨rfl, by simp⟩
    | _ =>
      rw [perform_of_quiet env s (by simp) hc] at h
      cases h

section
variable (hrun : e.status = .running) (hst : e.sequence.steps[e.progress.next]? = some st)
include hrun hst

theorem mem_tick_events {event : Event} : event ∈ (e.tick env s).1.events ↔
    event ∈ (e.perform env st s).2.1 ∨
      (∃ message, (e.perform env st s).1.failure? = some message ∧ event = .stepFailed e.progress.next message) ∨
      ∃ tally, (e.tick env s).1.cycle = some tally ∧ event = .cycleCompleted tally := by
  rw [tick_of_step env s hrun hst]
  simp only [List.mem_append, List.mem_map, Option.mem_toList, or_assoc, eq_comm (b := event)]

/-- What a tick tells of a command is what the sink made of the command of its step. -/
theorem dispatched_mem_tick {c : Command} {result : Except DispatchError Reply}
    (h : .dispatched c result ∈ (e.tick env s).1.events) :
    e.command? st = some c ∧ result = (env.sink c s).1 := by
  rcases (mem_tick_events hrun hst).mp h with h | ⟨_, -, he⟩ | ⟨_, -, he⟩
  · rcases perform_event h with ⟨c', hc, he⟩ | ⟨hnone, -⟩
    · cases he
      exact ⟨hc, rfl⟩
    · cases hnone
  · cases he
  · cases he

/-- A failure that a tick tells of is that of its step. -/
theorem stepFailed_mem_tick {place : Nat} {message : String} :
    .stepFailed place message ∈ (e.tick env s).1.events ↔
      place = e.progress.next ∧ (e.perform env st s).1.failure? = some message := by
  rw [mem_tick_events hrun hst]
  constructor
  · rintro (h | ⟨m, hm, he⟩ | ⟨_, -, he⟩)
    · rcases perform_event h with ⟨_, -, he⟩ | ⟨-, hnone⟩
      · cases he
      · exact absurd rfl (hnone place message)
    · cases he
      exact ⟨rfl, hm⟩
    · cases he
  · rintro ⟨rfl, hm⟩
    exact .inr (.inl ⟨message, hm, rfl⟩)

end

end Execution

/-! ### The step that is due -/

namespace Execution

theorem Reached.sequence {q : Sequence} {e : Execution} (h : Reached q e) : e.sequence = q := by
  induction h with
  | ready interval untilStopped => rfl
  | start _ ih => exact ih
  | stop reason _ ih => rwa [stop_sequence]
  | @tick e σ env s _ ih =>
    by_cases hrun : e.status = .running
    · cases hst : e.sequence.steps[e.progress.next]? with
      | none => rwa [tick_of_no_step env s hrun hst]
      | some st => rwa [(tick_spec env s hrun hst).2.2.1]
    · rwa [tick_of_not_running env s hrun]

/-- While a run is running there is a step that is due. -/
theorem Reached.exists_step {q : Sequence} {e : Execution} (h : Reached q e) (hrun : e.status = .running) :
    ∃ st, e.sequence.steps[e.progress.next]? = some st := by
  suffices hnext : e.status = .running → e.progress.next < e.sequence.steps.length from
    ⟨_, List.getElem?_eq_getElem (hnext hrun)⟩
  clear hrun
  induction h with
  | ready interval untilStopped => exact fun h => RunStatus.noConfusion h
  | @start e _ _ =>
    intro hrun
    refine List.length_pos_iff.mpr fun (hnone : e.sequence.steps = []) => ?_
    simp [Execution.start, hnone] at hrun
  | @stop e reason _ ih =>
    unfold Execution.stop
    split
    · exact fun h => RunStatus.noConfusion h
    · exact ih
  | @tick e σ env s _ ih =>
    by_cases hrun : e.status = .running
    · cases hst : e.sequence.steps[e.progress.next]? with
      | none =>
        rw [tick_of_no_step env s hrun hst]
        exact fun h => RunStatus.noConfusion h
      | some st =>
        obtain ⟨-, -, hsequence, -, hnext⟩ := tick_spec env s hrun hst
        intro _
        have hlt := ih hrun
        rw [hsequence, hnext]
        split <;> omega
    · rw [tick_of_not_running env s hrun]
      exact ih

/-- **Where a run stands, the steps that are due are addressed as the script says**, in the
first cycle and in every later one. -/
theorem Reached.address {q : Sequence} (hq : Blocks q.aliases q.steps) {e : Execution} (h : Reached q e) :
    ∃ b? : Option Binding, e.current = b?.map Binding.id ∧
      q.aliases.address b? (q.steps.drop e.progress.next) = q.addressed.drop e.progress.next := by
  induction h with
  | ready interval untilStopped => exact ⟨none, rfl, rfl⟩
  | start _ ih => exact ⟨none, rfl, rfl⟩
  | stop reason _ ih => rwa [stop_current, stop_progress]
  | @tick e σ env s h ih =>
    obtain rfl := h.sequence
    obtain ⟨b?, hcurrent, haddress⟩ := ih
    by_cases hrun : e.status = .running
    · cases hst : e.sequence.steps[e.progress.next]? with
      | none =>
        rw [tick_of_no_step env s hrun hst]
        exact ⟨b?, hcurrent, haddress⟩
      | some st =>
        obtain ⟨-, -, -, hselected, hnext⟩ := tick_spec env s hrun hst
        refine ⟨st.selection e.sequence.aliases b?, ?_, ?_⟩
        · rw [hselected]
          cases st with
          | select label =>
            cases hb : e.sequence.aliases.get? label <;> simp [selected, Step.selection, hb, hcurrent]
          | _ => exact hcurrent
        · rw [hnext]
          split
          · rw [List.drop_eq_getElem?_toList_append, hst] at haddress
            have htail := congrArg List.tail haddress
            rwa [List.tail_drop] at htail
          · exact hq.address_congr _ none
    · rw [tick_of_not_running env s hrun]
      exact ⟨b?, hcurrent, haddress⟩

/-- A step stands for the command that its binding gives. -/
theorem command?_eq {e : Execution} {b? : Option Binding} (h : e.current = b?.map Binding.id) (st : Step) :
    e.command? st = (⟨st, st.binding? e.sequence.aliases b?⟩ : Addressed).command? := by
  cases st with
  | speed _ | port _ => cases b? <;> simp [command?, Addressed.command?, Step.binding?, Step.order?, h]
  | read label p =>
    cases hb : e.sequence.aliases.get? label <;>
      simp [command?, Addressed.command?, Step.binding?, Step.order?, hb]
  | _ => rfl

/-- The step that is due and its command. -/
theorem Reached.addressed {q : Sequence} (hq : Blocks q.aliases q.steps) {e : Execution} (h : Reached q e)
    {st : Step} (hst : e.sequence.steps[e.progress.next]? = some st) :
    ∃ a, q.addressed[e.progress.next]? = some a ∧ a.step = st ∧ e.command? st = a.command? := by
  obtain rfl := h.sequence
  obtain ⟨b?, hcurrent, haddress⟩ := h.address hq
  rw [List.drop_eq_getElem?_toList_append, hst] at haddress
  refine ⟨⟨st, st.binding? e.sequence.aliases b?⟩, ?_, rfl, command?_eq hcurrent st⟩
  rw [← List.head?_drop, ← haddress]
  rfl

end Execution

/-! ### On a bench -/

/-- What a run acts on is a bench, with a console that leaves the bench alone, as does whoever provides a thread. -/
structure Surroundings.WorksOn {σ : Type} (env : Surroundings σ) (bench : σ → Bench) : Prop where
  sink : ∀ c s, (env.sink c s).1 = (benchSink c (bench s)).1 ∧
    bench (env.sink c s).2 = ((bench s).perform c).2
  console : ∀ console ∈ env.console, ∀ b, console.Keeps fun s => bench s = b
  crashes : ∀ c s, env.crashes c s = false
  thread : ∀ s, bench (env.thread s).2 = bench s

namespace Execution
variable {σ : Type} {env : Surroundings σ} {bench : σ → Bench}

/-- The commands of a run are orders. -/
theorem isDevice_of_command? {e : Execution} {st : Step} {c : Command} (h : e.command? st = some c) :
    c.isDevice = false := by
  rcases command?_cases h with ⟨id, n, -, -, rfl⟩ | ⟨id, mode, rfl⟩ | ⟨id, p, rfl⟩ <;> rfl

/-- A tick makes no difference to who is there. -/
theorem steady_tick (henv : env.WorksOn bench) (e : Execution) {s : σ} {b : Bench}
    (h : (bench s).Steady b) : (bench (e.tick env s).2.2).Steady b := by
  refine tick_keeps (I := fun s => (bench s).Steady b) env (fun e st c s hc hs => ?_)
    (fun console hconsole => ?_) e h
  · rw [(henv.sink c s).2]
    exact hs.perform (isDevice_of_command? hc)
  · have hkeeps := henv.console console hconsole
    refine ⟨fun path baud s hs => ?_, fun text s hs => ?_, fun text s hs => ?_⟩
    · rwa [(hkeeps (bench s)).connect path baud s rfl]
    · rwa [(hkeeps (bench s)).write text s rfl]
    · rwa [(hkeeps (bench s)).expect text s rfl]

/-- **What comes of an order** through a handle to a switch that answers: it fails for what
the model cannot do, and for nothing else. -/
theorem perform_of_order (henv : env.WorksOn bench) {e : Execution} {st : Step} {s : σ} {c : Command}
    (hc : e.command? st = some c) {m : Model} (hm : (bench s).handles.get? c.id = some m) {x : Snapshot}
    (hx : (bench s).bus.answering? c.id = some x) :
    (env.sink c s).1 = (match c.refusal? m with
      | some error => .error (.device error)
      | none => .ok (.ofText (c.act x).1)) ∧
    (e.perform env st s).1.failure? = (c.refusal? m).map SwitchError.message := by
  have hsink : (env.sink c s).1 = _ :=
    (henv.sink c s).1.trans ((bench s).benchSink_of_answering (isDevice_of_command? hc) hm hx)
  refine ⟨hsink, ?_⟩
  rw [perform_of_command env s hc, hsink]
  cases c.refusal? m <;> rfl

/-- In particular the switch is there. -/
theorem sink_of_ready (henv : env.WorksOn bench) {e : Execution} {st : Step} {s : σ} {c : Command}
    (hc : e.command? st = some c) (hready : (bench s).IsReady c.id) (id : SwitchId) :
    (env.sink c s).1 ≠ .error (.noResponse id) ∧ (env.sink c s).1 ≠ .error (.device (.notConnected id)) := by
  obtain ⟨⟨m, hm⟩, x, hx⟩ := hready
  rw [(perform_of_order henv hc hm hx).1]
  cases hrefusal : c.refusal? m with
  | none => simp
  | some error =>
    have hkind := Command.kind_of_refusal? hrefusal
    refine ⟨fun he => ?_, fun he => ?_⟩
    · cases he
    · cases he
      cases hkind

/-- A step that commands nothing does not fail where what it selects is declared. -/
theorem failure_of_quiet {e : Execution} {st : Step} {s : σ} (horder : st.isOrder = false)
    (hserial : ∀ action payload, st ≠ .serial action payload)
    (hselect : ∀ label, st = .select label → ∃ b, e.sequence.aliases.get? label = some b) :
    (e.perform env st s).1.failure? = none := by
  have hc : e.command? st = none := by
    cases st <;> first | rfl | cases horder
  rw [perform_of_quiet env s hserial hc]
  cases st with
  | select label =>
    obtain ⟨b, hb⟩ := hselect label rfl
    simp [quiet, hb, Verdict.failure?]
  | speed _ | port _ | read _ _ => cases horder
  | _ => rfl

/-- **What comes of the step that is due**, where the switches that the batch takes are in
use and answer. -/
theorem Reached.failure_perform {q : Sequence} (hq : Blocks q.aliases q.steps) (henv : env.WorksOn bench)
    {e : Execution} (h : Reached q e) {s : σ} (hready : ∀ id ∈ q.requiredIds, (bench s).IsReady id)
    {st : Step} (hst : e.sequence.steps[e.progress.next]? = some st) :
    ∃ a, q.addressed[e.progress.next]? = some a ∧ a.step = st ∧ e.command? st = a.command? ∧
      ((∀ action payload, st ≠ .serial action payload) →
        (e.perform env st s).1.failure? = (a.refusal? (bench s).handles).map SwitchError.message) := by
  obtain ⟨a, ha, rfl, hcommand⟩ := h.addressed hq hst
  obtain rfl := h.sequence
  refine ⟨a, ha, rfl, hcommand, fun hserial => ?_⟩
  have hmem : a ∈ e.sequence.addressed := List.mem_of_getElem? ha
  have hapt : a.Apt e.sequence.aliases := hq.apt none a hmem
  cases horder : a.step.isOrder with
  | false =>
    have hnone : a.command? = none := by
      rw [Addressed.command?, Option.bind_eq_none_iff]
      intro b _
      cases hstep : a.step <;> first | rfl | (rw [hstep] at horder; cases horder)
    rw [failure_of_quiet horder hserial hapt.selects, Addressed.refusal?, hnone]
    rfl
  | true =>
    obtain ⟨b, hb⟩ := hapt.bound horder
    obtain ⟨c, hc⟩ := Step.exists_order? horder b.id
    have hcommand' : a.command? = some c := Addressed.command?_eq_some_iff.mpr ⟨b, hb, hc⟩
    have hid : c.id = b.id := Step.id_of_order? hc
    obtain ⟨⟨m, hm⟩, x, hx⟩ := hready b.id (Sequence.mem_requiredIds_of_addressed hmem hb)
    rw [← hid] at hm hx
    rw [(perform_of_order henv (hcommand.trans hcommand') hm hx).2, Addressed.refusal?, hcommand']
    simp [hm]

end Execution

end SwitchBench
