import SwitchBench.Proofs.Run.Interlock
import SwitchBench.Proofs.Run.OnBench
import SwitchBench.Proofs.Run.Threads

/-! What it is worth that a run was accepted.

A run is accepted when the switches that its script takes are in use and answer. As long as
nothing but the run acts on the bench, that remains so, however far the run goes and whenever
it is asked to stop (`Run.GoesTo`). So its steps address switches that the script takes, these
are there, and a step fails for nothing but the console or for what the model that is connected
cannot do (`Runner.start_suffices`). -/
namespace SwitchBench

/-! ### The serial console -/

/-- A step at the console fails: there is none, it fails, or it has not said what is expected. -/
def Surroundings.Balks {σ : Type} (env : Surroundings σ) (action : SerialAction) (payload : String)
    (s : σ) : Prop :=
  match env.console with
  | none => True
  | some console =>
    match action with
    | .connect =>
      let words := Text.words payload.toList
      ∃ reason, (console.connect (String.ofList ((words[0]?).getD [])) ((words[1]?).bind Text.word32?) s).1 =
        .error reason
    | .write => ∃ reason, (console.write payload s).1 = .error reason
    | .expect => (console.expect payload s).1 ≠ .ok true

namespace Execution
variable {σ : Type} {env : Surroundings σ} {action : SerialAction} {payload : String} {s : σ}

theorem failure_ofConsole {α : Type} {f : α → Verdict} {r : Except String α} (hf : ∀ a, (f a).failure? = none) :
    (∃ message, (Verdict.ofConsole f r).failure? = some message) ↔ ∃ reason, r = .error reason := by
  cases r with
  | error reason => exact ⟨fun _ => ⟨reason, rfl⟩, fun _ => ⟨_, rfl⟩⟩
  | ok a => simp [Verdict.ofConsole, hf]

theorem failure_performSerial :
    (∃ message, (performSerial env action payload s).1.failure? = some message) ↔
      env.Balks action payload s := by
  unfold performSerial Surroundings.Balks
  cases env.console with
  | none => simp [Verdict.failure?]
  | some console =>
    cases action with
    | connect | write => exact failure_ofConsole fun _ => rfl
    | expect =>
      dsimp only
      rcases (console.expect payload s).1 with reason | _ | _ <;>
        simp [Verdict.ofConsole, Verdict.failure?]

end Execution

/-! ### Looking for switches -/

namespace Runner
variable {σ : Type} {env : Surroundings σ} {bench : σ → Bench}

/-- Looking for switches leaves the bench as it is. -/
theorem bench_lookFor (henv : env.WorksOn bench) (ids : List SwitchId) (s : σ) :
    bench (lookFor env s ids).2.2 = bench s := by
  induction ids generalizing s with
  | nil => rfl
  | cons id rest ih =>
    have hread : bench (env.sink (.read id .status) s).2 = bench s :=
      (henv.sink _ s).2.trans ((bench s).read_snd id .status)
    unfold lookFor
    rcases hsink : env.sink (.read id .status) s with ⟨_ | _, t⟩
    · rw [hsink] at hread
      exact hread
    · rw [hsink] at hread
      exact (ih t).trans hread

/-- Who is asked for its status answers exactly if it is there. -/
theorem status_isOk_iff (henv : env.WorksOn bench) (id : SwitchId) (s : σ) :
    (∃ reply, (env.sink (.read id .status) s).1 = .ok reply) ↔ (bench s).IsReady id := by
  rw [(henv.sink _ s).1]
  constructor
  · rintro ⟨reply, hreply⟩
    have hperform := (bench s).perform_order (c := .read id .status) rfl
    unfold benchSink at hreply
    rw [hperform, Bench.command] at hreply
    unfold Bench.IsReady
    cases hm : (bench s).handles.get? id with
    | none => simp [Command.id, hm] at hreply
    | some m =>
      cases hx : (bench s).bus.answering? id with
      | none => simp [Command.id, Command.refusal?, Parameter.isMeasurement, hm, hx] at hreply
      | some x => exact ⟨⟨m, rfl⟩, x, rfl⟩
  · rintro ⟨⟨m, hm⟩, x, hx⟩
    exact ⟨_, (bench s).benchSink_of_answering (c := .read id .status) rfl hm hx⟩

/-- **All are found exactly if they are there.** -/
theorem lookFor_isOk_iff (henv : env.WorksOn bench) (ids : List SwitchId) (s : σ) :
    (lookFor env s ids).1 = .ok () ↔ ∀ id ∈ ids, (bench s).IsReady id := by
  induction ids generalizing s with
  | nil => simp [lookFor]
  | cons id rest ih =>
    have hread : bench (env.sink (.read id .status) s).2 = bench s :=
      (henv.sink _ s).2.trans ((bench s).read_snd id .status)
    rw [List.forall_mem_cons, ← status_isOk_iff henv]
    unfold lookFor
    rcases hsink : env.sink (.read id .status) s with ⟨error | reply, t⟩
    · simp
    · rw [hsink] at hread
      simpa [hsink, hread] using ih t

/-- Only the switches that are looked for are asked. -/
theorem dispatched_mem_lookFor {ids : List SwitchId} {s : σ} {c : Command}
    {result : Except DispatchError Reply} (h : .dispatched c result ∈ (lookFor env s ids).2.1) :
    c.id ∈ ids := by
  induction ids generalizing s with
  | nil => cases h
  | cons id rest ih =>
    unfold lookFor at h
    rcases hsink : env.sink (.read id .status) s with ⟨error | reply, t⟩
    · rw [hsink] at h
      cases List.mem_singleton.mp h
      exact List.mem_cons_self ..
    · rw [hsink] at h
      rcases List.mem_cons.mp h with he | h
      · cases he
        exact List.mem_cons_self ..
      · exact List.mem_cons_of_mem _ (ih h)

/-- **Who starts a run has found its switches**, on a bench that is left as it is. -/
theorem of_start_eq_ok (henv : env.WorksOn bench) {r r' : Runner} {q : Sequence} {options : RunOptions}
    {s t : σ} {events : List Event} (h : r.start env q options s = (.ok (), events, r', t)) :
    r'.active? = some (.accepted q options) ∧ bench t = bench s ∧
      (∀ id ∈ q.requiredIds, (bench s).IsReady id) ∧
      ∀ c result, .dispatched c result ∈ events → c.id ∈ q.requiredIds := by
  obtain ⟨-, -, ⟨u, hlook, hgot⟩, rfl⟩ := (start_eq_ok_iff env).mp h
  have hbench := bench_lookFor henv q.requiredIds s
  have hready := lookFor_isOk_iff henv q.requiredIds s
  have hasked := @dispatched_mem_lookFor σ env q.requiredIds s
  have hthread := henv.thread u
  rw [hlook] at hbench hready hasked
  rw [hgot] at hthread
  exact ⟨by simp [active?], hthread.trans hbench, hready.mp rfl, fun c result => hasked⟩

end Runner

/-! ### While a run goes on -/

namespace Run
variable {σ : Type}

/-- What a run comes to while its thread takes steps, it is asked to stop, and other things
happen that leave the bench alone. -/
inductive GoesTo (env : Surroundings σ) (bench : σ → Bench) (r : Run) (s : σ) : Run → σ → Prop
  | here : GoesTo env bench r s r s
  | step {r' : Run} {s' : σ} (h : GoesTo env bench r s r' s') :
    GoesTo env bench r s (r'.step env s').2.1 (r'.step env s').2.2
  | stop {r' : Run} {s' : σ} (h : GoesTo env bench r s r' s') :
    GoesTo env bench r s { r' with stopAsked := true } s'
  | meanwhile {r' : Run} {s' s'' : σ} (h : GoesTo env bench r s r' s') (hbench : bench s'' = bench s') :
    GoesTo env bench r s r' s''

/-- What every step of an accepted run preserves. -/
structure Underway (q : Sequence) (b : Bench) (bench : σ → Bench) (r : Run) (s : σ) : Prop where
  reached : Execution.Reached q r.execution
  running : r.stage = .due ∨ (∃ ms, r.stage = .waiting ms) → r.execution.status = .running
  steady : (bench s).Steady b

variable {env : Surroundings σ} {bench : σ → Bench} {q : Sequence} {b : Bench} {r : Run} {s : σ}

theorem Underway.step (henv : env.WorksOn bench) (h : r.Underway q b bench s) :
    (r.step env s).2.1.Underway q b bench (r.step env s).2.2 := by
  cases hstage : r.stage with
  | due =>
    rw [step_of_due henv.crashes hstage]
    refine ⟨h.reached.tick env s, fun hgoes => ?_, Execution.steady_tick henv _ h.steady⟩
    dsimp only at hgoes ⊢
    by_contra hrun
    simp [hrun] at hgoes
  | fresh =>
    unfold Run.step
    simp only [hstage]
    refine ⟨h.reached.start, fun hgoes => ?_, h.steady⟩
    dsimp only at hgoes ⊢
    by_contra hrun
    simp [hrun] at hgoes
  | waiting ms =>
    unfold Run.step
    simp only [hstage]
    split
    · exact ⟨h.reached.stop .manual, fun hgoes => by simp at hgoes, h.steady⟩
    · exact ⟨h.reached, fun _ => h.running (.inr ⟨ms, hstage⟩), h.steady⟩
  | closing =>
    unfold Run.step
    simp only [hstage]
    exact ⟨h.reached, fun hgoes => by simp at hgoes, h.steady⟩
  | _ =>
    unfold Run.step
    simp only [hstage]
    exact h

theorem GoesTo.underway (henv : env.WorksOn bench) (h : r.Underway q b bench s) {r' : Run} {s' : σ}
    (hgoes : GoesTo env bench r s r' s') : r'.Underway q b bench s' := by
  induction hgoes with
  | here => exact h
  | step _ ih => exact ih.step henv
  | stop _ ih => exact ⟨ih.reached, ih.running, ih.steady⟩
  | meanwhile _ hbench ih => exact ⟨ih.reached, ih.running, hbench ▸ ih.steady⟩

/-! ### Where a run was accepted -/

/-- A failure of a step that knows no switch. -/
def LacksSwitch (message : String) : Prop :=
  message = "no switch selected" ∨ ∃ label : String, message = s!"unknown switch alias '{label}'"

/-- A text opens with the letter that its first part opens with. -/
theorem head?_append {text rest : String} {c : Char} (h : text.toList.head? = some c) :
    (text ++ rest).toList.head? = some c := by
  rw [String.toList_append, List.head?_append, h]
  rfl

theorem head?_unknown (label : String) : s!"unknown switch alias '{label}'".toList.head? = some 'u' :=
  head?_append (head?_append rfl)

theorem not_lacksSwitch {message : String} {c : Char} (h : message.toList.head? = some c)
    (hn : c ≠ 'n') (hu : c ≠ 'u') : ¬ LacksSwitch message := by
  rintro (rfl | ⟨label, rfl⟩)
  · exact hn (Option.some.inj h).symm
  · exact hu (Option.some.inj (h.symm.trans (head?_unknown label)))

theorem not_lacksSwitch_of_unsupported {e : SwitchError} (h : e.kind = .unsupported) :
    ¬ LacksSwitch e.message := by
  refine not_lacksSwitch (c := 's') ?_ (by decide) (by decide)
  cases e with
  | noSuchPort _ _ _ | noSpeedControl _ _ _ | noMeters _ _ _ =>
    exact head?_append (head?_append (head?_append (head?_append (head?_append rfl))))
  | _ => cases h

theorem not_lacksSwitch_of_console {α : Type} {f : α → Verdict} {r : Except String α} {message : String}
    (h : (Verdict.ofConsole f r).failure? = some message)
    (hf : ∀ a m, (f a).failure? = some m → ¬ LacksSwitch m) : ¬ LacksSwitch message := by
  cases r with
  | ok a => exact hf a message h
  | error reason =>
    cases h
    exact not_lacksSwitch (c := 's') (head?_append rfl) (by decide) (by decide)

theorem not_lacksSwitch_of_serial {action : SerialAction} {payload message : String}
    (h : (Execution.performSerial env action payload s).1.failure? = some message) :
    ¬ LacksSwitch message := by
  unfold Execution.performSerial at h
  cases hconsole : env.console with
  | none =>
    rw [hconsole] at h
    cases h
    rintro (he | ⟨label, he⟩)
    · exact absurd he (by decide)
    · have hhead := head?_unknown label
      rw [← he] at hhead
      exact absurd hhead (by decide)
  | some console =>
    rw [hconsole] at h
    cases action with
    | connect | write => exact not_lacksSwitch_of_console h fun _ _ hm => by cases hm
    | expect =>
      refine not_lacksSwitch_of_console h fun seen m hm => ?_
      cases seen with
      | true => cases hm
      | false =>
        cases hm
        exact not_lacksSwitch (c := 'e') (head?_append (head?_append rfl)) (by decide) (by decide)

/-! The step that is due, where its failures at a bench are known. -/

section
variable {e : Execution} {a : Addressed} {models : Roster Model}
  (hfailure : (∀ action payload, a.step ≠ .serial action payload) →
    (e.perform env a.step s).1.failure? = (a.refusal? models).map SwitchError.message)
include hfailure

theorem not_lacksSwitch_of_failure {message : String}
    (h : (e.perform env a.step s).1.failure? = some message) : ¬ LacksSwitch message := by
  by_cases hserial : ∃ action payload, a.step = .serial action payload
  · obtain ⟨action, payload, hstep⟩ := hserial
    rw [hstep] at h
    exact not_lacksSwitch_of_serial h
  · rw [hfailure fun action payload he => hserial ⟨action, payload, he⟩] at h
    obtain ⟨error, herror, rfl⟩ := Option.map_eq_some_iff.mp h
    exact not_lacksSwitch_of_unsupported (Addressed.kind_of_refusal? herror)

theorem exists_failure_iff (hcommand : e.command? a.step = a.command?) :
    (∃ message, (e.perform env a.step s).1.failure? = some message) ↔
      (∃ action payload, a.step = .serial action payload ∧ env.Balks action payload s) ∨
        ∃ c m, e.command? a.step = some c ∧ models.get? c.id = some m ∧ a.step.exceeds m = true := by
  by_cases hserial : ∃ action payload, a.step = .serial action payload
  · obtain ⟨action, payload, hstep⟩ := hserial
    rw [hstep]
    refine Execution.failure_performSerial.trans ⟨fun hbalks => .inl ⟨action, payload, rfl, hbalks⟩, ?_⟩
    rintro (⟨action', payload', he, hbalks⟩ | ⟨c, m, hc, -⟩)
    · cases he
      exact hbalks
    · cases hc
  · rw [hfailure fun action payload he => hserial ⟨action, payload, he⟩, hcommand,
      ← Option.isSome_iff_exists, Option.isSome_map, Addressed.isSome_refusal?_iff]
    exact ⟨.inr, fun h => h.resolve_left fun ⟨action, payload, he, _⟩ => hserial ⟨action, payload, he⟩⟩

/-- A port or a speed that the declared model has is no failure where that model is connected. -/
theorem failure_of_declared (hapt : a.Apt q.aliases)
    (hmodels : ∀ b m, a.binding? = some b → models.get? b.id = some m → m = b.model)
    (hkind : (∃ n, a.step = .port n) ∨ ∃ mode, a.step = .speed mode) :
    (e.perform env a.step s).1.failure? = none := by
  have hserial : ∀ action payload, a.step ≠ .serial action payload := by
    rcases hkind with ⟨n, hn⟩ | ⟨mode, hmode⟩ <;> simp [*]
  have hread : ∀ label p, a.step ≠ .read label p := by
    rcases hkind with ⟨n, hn⟩ | ⟨mode, hmode⟩ <;> simp [*]
  rw [hfailure hserial, Option.map_eq_none_iff, ← Option.not_isSome_iff_eq_none, Addressed.isSome_refusal?_iff]
  rintro ⟨c, m, hc, hm, hexceeds⟩
  obtain ⟨b, hb, horder⟩ := Addressed.command?_eq_some_iff.mp hc
  rw [Step.id_of_order? horder] at hm
  rw [hmodels b m hb hm, hapt.within b hb hread] at hexceeds
  cases hexceeds

end

/-- What can be relied on of the next step of the thread. -/
structure Admitted (env : Surroundings σ) (q : Sequence) (models : Roster Model) (r : Run) (s : σ) :
    Prop where
  /-- A command is for a switch that the batch takes. -/
  required : ∀ c result, .dispatched c result ∈ (r.step env s).1 → c.id ∈ q.requiredIds
  /-- The switch is there. -/
  answered : ∀ c result, .dispatched c result ∈ (r.step env s).1 →
    ∀ id, result ≠ .error (.noResponse id) ∧ result ≠ .error (.device (.notConnected id))
  /-- Only the step that is due fails, and not for want of a switch. -/
  known : ∀ place message, .stepFailed place message ∈ (r.step env s).1 →
    r.stage = .due ∧ place = r.execution.progress.next ∧ ¬ LacksSwitch message
  /-- A step fails at the console, or since it is beyond the model that is connected. -/
  fails_iff : r.stage = .due → ∃ st, q.steps[r.execution.progress.next]? = some st ∧
    ((∃ message, .stepFailed r.execution.progress.next message ∈ (r.step env s).1) ↔
      (∃ action payload, st = .serial action payload ∧ env.Balks action payload s) ∨
        ∃ c m, r.execution.command? st = some c ∧ models.get? c.id = some m ∧ st.exceeds m = true)
  /-- Where the models that are connected are those declared, no port and no speed step fails. -/
  declared : (∀ label b m, q.aliases.get? label = some b → models.get? b.id = some m → m = b.model) →
    ∀ st, q.steps[r.execution.progress.next]? = some st →
      ((∃ n, st = .port n) ∨ ∃ mode, st = .speed mode) →
      ∀ place message, .stepFailed place message ∉ (r.step env s).1

/-- Nothing is told of commands and failures but by a tick. -/
theorem step_of_not_due (hdue : r.stage ≠ .due) {event : Event} (h : event ∈ (r.step env s).1) :
    event.command? = none ∧ ∀ place message, event ≠ .stepFailed place message := by
  unfold Run.step at h
  cases hstage : r.stage with
  | due => exact absurd hstage hdue
  | fresh | closing =>
    simp only [hstage] at h
    cases List.mem_singleton.mp h
    exact ⟨rfl, by simp⟩
  | waiting ms =>
    simp only [hstage] at h
    split at h <;> cases h
  | _ =>
    simp only [hstage] at h
    cases h

theorem admitted_of_not_due (hdue : r.stage ≠ .due) (models : Roster Model) : r.Admitted env q models s where
  required c result h := by cases (step_of_not_due hdue h).1
  answered c result h := by cases (step_of_not_due hdue h).1
  known place message h := absurd rfl ((step_of_not_due hdue h).2 place message)
  fails_iff h := absurd h hdue
  declared _ _ _ _ place message h := (step_of_not_due hdue h).2 place message rfl

/-- What a step that is due tells of its command and of its failure. -/
theorem step_events_of_due (hcalm : ∀ c s, env.crashes c s = false) (hdue : r.stage = .due)
    (hrun : r.execution.status = .running) {st : Step}
    (hst : r.execution.sequence.steps[r.execution.progress.next]? = some st) :
    (∀ c result, .dispatched c result ∈ (r.step env s).1 →
      r.execution.command? st = some c ∧ result = (env.sink c s).1) ∧
    ∀ place message, .stepFailed place message ∈ (r.step env s).1 ↔
      place = r.execution.progress.next ∧ (r.execution.perform env st s).1.failure? = some message := by
  have hevents : (r.step env s).1 = (r.execution.tick env s).1.events := by rw [step_of_due hcalm hdue]
  rw [hevents]
  exact ⟨fun c result => Execution.dispatched_mem_tick hrun hst,
    fun place message => Execution.stepFailed_mem_tick hrun hst⟩

/-- **One step** of a run that is underway where its switches are there. -/
theorem Underway.admitted (henv : env.WorksOn bench) (hq : Blocks q.aliases q.steps)
    (hready : ∀ id ∈ q.requiredIds, b.IsReady id) (h : r.Underway q b bench s) :
    r.Admitted env q b.handles s := by
  by_cases hdue : r.stage = .due
  · have hrun : r.execution.status = .running := h.running (.inl hdue)
    obtain ⟨st, hst⟩ := h.reached.exists_step hrun
    have hready' : ∀ id ∈ q.requiredIds, (bench s).IsReady id := fun id hid => h.steady.isReady (hready id hid)
    obtain ⟨a, ha, rfl, hcommand, hfailure⟩ := h.reached.failure_perform hq henv hready' hst
    rw [h.steady.handles] at hfailure
    obtain ⟨hdispatched, hfailed⟩ := step_events_of_due (s := s) henv.crashes hdue hrun hst
    have hmem : a ∈ q.addressed := List.mem_of_getElem? ha
    have hrequired : ∀ c, r.execution.command? a.step = some c → c.id ∈ q.requiredIds := by
      intro c hc
      obtain ⟨d, hd, horder⟩ := Addressed.command?_eq_some_iff.mp (hcommand.symm.trans hc)
      exact Step.id_of_order? horder ▸ q.mem_requiredIds_of_addressed hmem hd
    rw [h.reached.sequence] at hst
    refine ⟨fun c result hc => hrequired c (hdispatched c result hc).1, fun c result hc => ?_,
      fun place message hm => ?_, fun _ => ⟨a.step, hst, ?_⟩, fun hmodels st hst' hkind place message hm => ?_⟩
    · obtain ⟨hcommand, rfl⟩ := hdispatched c result hc
      exact Execution.sink_of_ready henv hcommand (hready' c.id (hrequired c hcommand))
    · obtain ⟨hplace, hm⟩ := (hfailed place message).mp hm
      exact ⟨hdue, hplace, not_lacksSwitch_of_failure hfailure hm⟩
    · simp only [hfailed, true_and]
      exact exists_failure_iff hfailure hcommand
    · cases hst.symm.trans hst'
      have hnone := failure_of_declared hfailure (hq.apt none a hmem) (fun d m hd hm => by
        obtain ⟨-, -, label, -, hlabel⟩ := q.named_of_addressed hmem hd
        exact hmodels label d m hlabel hm) hkind
      cases hnone.symm.trans ((hfailed place message).mp hm).2
  · exact admitted_of_not_due hdue b.handles

end Run

namespace Site
variable {ν κ : Type}

/-- In the role of the bench at hand, with the interlock reset, a run works on the bench. -/
theorem worksOn_here (endpoint : String) (link : Link ν) (console : Option (Console κ)) :
    (surroundings .here endpoint link console false).WorksOn Site.bench where
  sink c s := by
    have hguarded : (surroundings .here endpoint link console false).sink c s = sink .here endpoint link c s := by
      simp [surroundings, Sink.guarded]
    rw [hguarded]
    exact ⟨rfl, benchSink_snd c s.bench⟩
  console placed hplaced b := by
    obtain ⟨there, -, rfl⟩ := Option.map_eq_some_iff.mp hplaced
    exact ⟨fun _ _ _ h => h, fun _ _ h => h, fun _ _ h => h⟩
  crashes _ _ := rfl
  thread _ := rfl

end Site

/-- **The checks before a run are enough.** Let a run of a script be accepted in the role of the
bench at hand, on whatever bench, with the interlock reset, and let nothing else act on the
bench. However far the run goes, its commands are for switches that the script takes, these
are there, and a step fails exactly if it fails at the console or is beyond the model that is
connected (`Run.Admitted`). -/
theorem Runner.start_suffices {ν κ : Type} (endpoint : String) (link : Link ν) (console : Option (Console κ))
    {text : List Char} {r r' : Runner} {options : RunOptions} {s t : Site ν κ} {events : List Event}
    (hstart : r.start (Site.surroundings .here endpoint link console false) (Reading.ofText text).sequence
      options s = (.ok (), events, r', t)) :
    let q := (Reading.ofText text).sequence
    let env := Site.surroundings .here endpoint link console false
    r'.active? = some (.accepted q options) ∧
      (∀ c result, .dispatched c result ∈ events → c.id ∈ q.requiredIds) ∧
      ∀ run u, Run.GoesTo env Site.bench (.accepted q options) t run u →
        u.bench.handles = s.bench.handles ∧ run.Admitted env q s.bench.handles u := by
  intro q env
  have henv : env.WorksOn Site.bench := Site.worksOn_here endpoint link console
  have hq : Blocks q.aliases q.steps := (Reading.ofText_wellFormed text).blocks
  obtain ⟨hactive, hbench, hready, hasked⟩ := of_start_eq_ok henv hstart
  refine ⟨hactive, hasked, fun run u hgoes => ?_⟩
  have hbegun : (Run.accepted q options).Underway q s.bench Site.bench t :=
    ⟨.ready _ _, fun h => by simp [Run.accepted] at h, hbench ▸ .refl _⟩
  have hunderway := hgoes.underway henv hbegun
  exact ⟨hunderway.steady.handles, hunderway.admitted henv hq hready⟩

/-- A script for a switch with two ports. -/
def onSecondPort : List Char := "switch a = \"COM7\" \"3141\"\nmain:\nport a.p2".toList

/-- On a bench where a switch with one port is connected it is accepted, and its port step fails. -/
theorem Runner.start_suffices_onSecondPort :
    let q := (Reading.ofText onSecondPort).sequence
    let bench := ((Bench.idle (.listed [(⟨"COM7"⟩, .m3201)])).connect ⟨"COM7"⟩).2
    let s : Site Unit Unit := ⟨bench, (), [], ()⟩
    let link : Link Unit := fun _ s => (.answered [] .closes, s)
    let env := Site.surroundings .here "localhost:5000" link none false
    let due := (((Run.accepted q .standard).step env s).2.1.step env s).2.1.step env s
    (∃ events r', Runner.new.start env q .standard s = (.ok (), events, r', s)) ∧
      ∃ message, .stepFailed 1 message ∈ (due.2.1.step env s).1 := by
  intro q bench s link env due
  have hstart : Runner.new.start env q .standard s = (.ok (),
      [.dispatched (.read ⟨"COM7"⟩ .status) (.ok (.ofText "p0 SS1"))], ⟨[.accepted q .standard], some 0⟩, s) := rfl
  obtain ⟨-, -, hmoments⟩ := Runner.start_suffices "localhost:5000" link none hstart
  obtain ⟨-, hadmitted⟩ := hmoments due.2.1 s (.step (.step (.step .here)))
  obtain ⟨st, hst, hfails⟩ := hadmitted.fails_iff rfl
  cases hst
  exact ⟨⟨_, _, hstart⟩, hfails.mpr (.inr ⟨.port ⟨"COM7"⟩ 2, .m3201, rfl, rfl, rfl⟩)⟩

end SwitchBench
