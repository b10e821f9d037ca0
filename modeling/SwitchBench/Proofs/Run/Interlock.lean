import SwitchBench.Proofs.Run.SafeSwitching
import SwitchBench.Proofs.Server.Ports
import SwitchBench.Settings.Choice

/-! The interlock during a run.

From the moment at which the interlock is tripped a run changes no port, neither on the
bench at hand nor by way of a server (`Site.Spared`). Up to its next port step it goes on
as if nothing had happened; that step is refused, and stops the run for good. -/
namespace SwitchBench

/-! ### Where a run takes place -/

/-- The bench at hand, the other side of the network with all that was sent there, and
what the console acts on. -/
structure Site (ν κ : Type) where
  bench : Bench
  network : ν
  sent : List (List UInt8)
  console : κ

section
variable {ν κ : Type}

/-- A link that writes down what is sent. -/
def Link.recorded (link : Link ν) : Link (ν × List (List UInt8)) := fun bytes s =>
  let (delivery, network) := link bytes s.1
  (delivery, network, s.2 ++ [bytes])

/-- On the other side of the link a server keeps a bench, on which nobody else works. What
is sent arrives there whole or cut off. -/
def Link.Serves (link : Link ν) (far : ν → Bench) : Prop :=
  ∀ bytes n, ∃ limit ending front, front <+: bytes ∧
    far (link bytes n).2 = ((far n).serve limit ending front).2

/-- What a server gets to see is all that is sent to it. -/
theorem serverLink_serves (limit : Nat) : (serverLink limit).Serves id := fun bytes _ =>
  ⟨limit, .closes, bytes, List.prefix_rfl, rfl⟩

theorem networkSink_snd {σ : Type} (endpoint : String) (link : Link σ) (c : Command) (s : σ) :
    (networkSink endpoint link c s).2 = (link c.request.bytes s).2 := by
  unfold networkSink
  dsimp only
  split <;> rfl

namespace Site

/-- Carries out commands in a role. -/
def sink (role : Role) (endpoint : String) (link : Link ν) : Sink (Site ν κ) := fun c s =>
  match role with
  | .here =>
    let (result, bench) := benchSink c s.bench
    (result, { s with bench })
  | .network =>
    let (result, network, sent) := networkSink endpoint link.recorded c (s.network, s.sent)
    (result, { s with network, sent })

/-- A console that is at the site. -/
def placed (console : Console κ) : Console (Site ν κ) where
  connect path baud s :=
    let (result, console) := console.connect path baud s.console
    (result, { s with console })
  write text s :=
    let (result, console) := console.write text s.console
    (result, { s with console })
  expect text s :=
    let (result, console) := console.expect text s.console
    (result, { s with console })

/-- What a run at the site acts on, behind the interlock. -/
def surroundings (role : Role) (endpoint : String) (link : Link ν) (console : Option (Console κ))
    (tripped : Bool) : Surroundings (Site ν κ) where
  sink := (sink role endpoint link).guarded tripped
  console := console.map placed
  crashes _ _ := false

/-- Since `s` no port was changed and no request for a port was sent. -/
structure Spared (far : ν → Bench) (s t : Site ν κ) : Prop where
  here : ∀ id, t.bench.port? id = s.bench.port? id
  there : ∀ id, (far t.network).port? id = (far s.network).port? id
  sent : ∃ more, t.sent = s.sent ++ more ∧ ∀ m ∈ more, ∀ id n, m ≠ (Command.port id n).request.bytes

namespace Spared
variable {far : ν → Bench} {s t : Site ν κ}

theorem refl (s : Site ν κ) : Spared far s s :=
  ⟨fun _ => rfl, fun _ => rfl, [], (List.append_nil _).symm, fun _ h => absurd h List.not_mem_nil⟩

/-- A command that is not for a port leaves the ports alone. -/
theorem sink (h : Spared far s t) {c : Command} (hc : c.sparesPorts = true) (role : Role)
    (endpoint : String) {link : Link ν} (hserves : link.Serves far) :
    Spared far s (Site.sink role endpoint link c t).2 := by
  cases role with
  | here =>
    refine ⟨fun id => ?_, h.there, h.sent⟩
    show (benchSink c t.bench).2.port? id = _
    rw [benchSink_snd, t.bench.perform_port? hc, h.here]
  | network =>
    have hsnd : (networkSink endpoint link.recorded c (t.network, t.sent)).2 =
        ((link c.request.bytes t.network).2, t.sent ++ [c.request.bytes]) := networkSink_snd ..
    refine ⟨h.here, fun id => ?_, ?_⟩
    · obtain ⟨limit, ending, front, hfront, hfar⟩ := hserves c.request.bytes t.network
      show (far (networkSink endpoint link.recorded c (t.network, t.sent)).2.1).port? id = _
      rw [hsnd, hfar, Bench.serve_port? _ hc hfront, h.there]
    · obtain ⟨more, hsent, hmore⟩ := h.sent
      refine ⟨more ++ [c.request.bytes], ?_, fun m hm id n => ?_⟩
      · show (networkSink endpoint link.recorded c (t.network, t.sent)).2.2 = _
        rw [hsnd, hsent, List.append_assoc]
      · rcases List.mem_append.mp hm with hm | hm
        · exact hmore m hm id n
        · rw [List.mem_singleton.mp hm]
          exact fun heq => Command.request_ne_port hc id n (Request.bytes_injective heq)

/-- Whatever is done with the console leaves the ports alone. -/
theorem placed (console : Console κ) : (Site.placed console).Keeps (Spared far s) where
  connect _ _ _ h := ⟨h.here, h.there, h.sent⟩
  write _ _ h := ⟨h.here, h.there, h.sent⟩
  expect _ _ h := ⟨h.here, h.there, h.sent⟩

end Spared

end Site

end

namespace Execution

/-! ### Port steps of a run -/

/-- A switch is selected once a declared alias was. -/
theorem isSome_selected {e : Execution} {st : Step}
    (h : ∀ label, st = .select label → ∃ b, e.sequence.aliases.get? label = some b) :
    (e.selected st).isSome = st.addresses (fun _ => true) e.current.isSome := by
  cases st with
  | select label =>
    obtain ⟨b, hb⟩ := h label rfl
    simp [selected, hb, Step.addresses]
  | _ => rfl

/-- Where a run stands, the steps that are due select before they set a port. -/
theorem Reached.guided {q : Sequence} (hq : ∀ seen, Guided q.aliases seen q.steps) {e : Execution}
    (h : Reached q e) : e.sequence = q ∧
      Guided q.aliases e.current.isSome (q.steps.drop e.progress.next) := by
  induction h with
  | ready interval untilStopped => exact ⟨rfl, hq _⟩
  | start _ ih => exact ⟨ih.1, hq _⟩
  | stop reason _ ih => rwa [stop_sequence, stop_current, stop_progress]
  | @tick e σ env s _ ih =>
    obtain ⟨rfl, hguided⟩ := ih
    by_cases hrun : e.status = .running
    · cases hst : e.sequence.steps[e.progress.next]? with
      | none =>
        rw [tick_of_no_step env s hrun hst]
        exact ⟨rfl, hguided⟩
      | some st =>
        obtain ⟨-, -, hsequence, hcurrent, hnext⟩ := tick_spec env s hrun hst
        rw [List.drop_eq_getElem?_toList_append, hst] at hguided
        obtain ⟨hselect, -, hrest⟩ := hguided
        refine ⟨hsequence, ?_⟩
        -- A new cycle begins with the switch selected that the last one ended with.
        rw [hcurrent, hnext, isSome_selected hselect]
        split
        · exact hrest
        · exact hq _
    · rw [tick_of_not_running env s hrun]
      exact ⟨rfl, hguided⟩

theorem Reached.current_of_port {q : Sequence} (hq : ∀ seen, Guided q.aliases seen q.steps)
    {e : Execution} (h : Reached q e) {n : UInt8}
    (hst : e.sequence.steps[e.progress.next]? = some (.port n)) : ∃ id, e.current = some id := by
  obtain ⟨rfl, hguided⟩ := h.guided hq
  rw [List.drop_eq_getElem?_toList_append, hst] at hguided
  exact Option.isSome_iff_exists.mp (hguided.2.1 n rfl)

/-! ### Refusals -/

/-- **A step that the interlock refuses** is reported and counted as failed, and stops the
run, be it the last one or not. -/
theorem tick_of_interlock {σ : Type} (env : Surroundings σ) {e : Execution} {st : Step} {c : Command}
    {s : σ} (hrun : e.status = .running) (hst : e.sequence.steps[e.progress.next]? = some st)
    (hc : e.command? st = some c) (hrefused : env.sink c s = (.error .interlock, s)) :
    (e.tick env s).1.events = .dispatched c (.error .interlock) ::
        .stepFailed e.progress.next DispatchError.interlock.message ::
        (e.tick env s).1.cycle.toList.map .cycleCompleted ∧
      (e.tick env s).2.2 = s ∧
      (e.tick env s).2.1.progress.tally.passes = e.progress.tally.passes ∧
      (e.tick env s).2.1.progress.tally.failures = countUp e.progress.tally.failures ∧
      (e.tick env s).2.1.status = .stopped .fault := by
  have hselected : { e with current := e.selected st }.status = .running := hrun
  rw [tick_of_step env s hrun hst, perform_of_command env s hc, hrefused]
  dsimp only [Verdict.ofResult]
  rw [count_fault hselected, advance_passes, advance_failures,
    advance_status (fun h => RunStatus.noConfusion h)]
  exact ⟨rfl, rfl, rfl, rfl, rfl⟩

/-- Ticks behind the tripped interlock leave the ports alone. -/
theorem ticks_spared {ν κ : Type} (role : Role) (endpoint : String) {link : Link ν} {far : ν → Bench}
    (hserves : link.Serves far) (console : Option (Console κ)) (e : Execution) (n : Nat) (s : Site ν κ) :
    Site.Spared far s (e.ticks (Site.surroundings role endpoint link console true) n s).2.2 := by
  refine ticks_keeps _ (fun e st c t hc h => ?_) (fun placed hplaced => ?_) e n (.refl s)
  · rcases command?_cases hc with ⟨id, n, -, -, rfl⟩ | ⟨id, mode, rfl⟩ | ⟨id, p, rfl⟩
    · exact h
    · exact h.sink rfl role endpoint hserves
    · exact h.sink rfl role endpoint hserves
  · obtain ⟨there, -, rfl⟩ := Option.map_eq_some_iff.mp hplaced
    exact Site.Spared.placed there

/-- **The interlock stops port switching for good.** Take a run of a script at whatever
point of it, in either role, and let the interlock be tripped there. However many ticks
follow, no port is changed and no request for a port is sent. A port step that is due is
refused: that is reported once and counts as one failure more, as far as failures are
counted, nothing else is touched, and the run has stopped and does nothing more, whatever
it acts on. As long as no port step was due all is as if the interlock were not tripped. -/
theorem interlock_holds {text : List Char} {e : Execution}
    (hreached : Reached (Reading.ofText text).sequence e) {ν κ : Type} (role : Role)
    (endpoint : String) {link : Link ν} {far : ν → Bench} (hserves : link.Serves far)
    (console : Option (Console κ)) (s : Site ν κ) :
    let env := Site.surroundings role endpoint link console
    let after (n : Nat) := e.ticks (env true) n s
    (∀ n, Site.Spared far s (after n).2.2) ∧
      (∀ n port, (after n).2.1.status = .running →
        (after n).2.1.sequence.steps[(after n).2.1.progress.next]? = some (.port port) →
        let due := (after n).2.1
        let refused := due.tick (env true) (after n).2.2
        ∃ id, due.current = some id ∧
          refused.1.events = .dispatched (.port id port) (.error .interlock) ::
            .stepFailed due.progress.next DispatchError.interlock.message ::
            refused.1.cycle.toList.map .cycleCompleted ∧
          refused.2.2 = (after n).2.2 ∧
          refused.2.1.progress.tally.passes = due.progress.tally.passes ∧
          refused.2.1.progress.tally.failures = countUp due.progress.tally.failures ∧
          refused.2.1.status = .stopped .fault ∧
          ∀ (τ : Type) (other : Surroundings τ) (t : τ),
            refused.2.1.tick other t = (⟨0, none, []⟩, refused.2.1, t) ∧
              ∀ m, refused.2.1.ticks other m t = ([], refused.2.1, t)) ∧
      ∀ n, (∀ t ∈ (after n).1, ∀ id port, .port id port ∉ t.commands) →
        after n = e.ticks (env false) n s := by
  intro env after
  have hguided : ∀ seen, Guided (Reading.ofText text).sequence.aliases seen
      (Reading.ofText text).sequence.steps := (Reading.ofText_wellFormed text).blocks.guided
  refine ⟨fun n => ticks_spared role endpoint hserves console e n s, ?_, ?_⟩
  · intro n port hrun hst due refused
    obtain ⟨id, hid⟩ := (hreached.ticks (env true) n s).current_of_port hguided hst
    have hcommand : due.command? (.port port) = some (.port id port) := by
      rw [command?, hid, Option.map_some]
    obtain ⟨hevents, hworld, hpasses, hfailures, hstatus⟩ :=
      tick_of_interlock (env true) (s := (after n).2.2) hrun hst hcommand rfl
    have hstopped : refused.2.1.status ≠ .running := by
      rw [hstatus]
      exact fun h => RunStatus.noConfusion h
    exact ⟨id, hid, hevents, hworld, hpasses, hfailures, hstatus, fun τ other t =>
      ⟨tick_of_not_running other t hstopped, fun m => ticks_of_not_running other hstopped m t⟩⟩
  · intro n hnone
    have hconsole : (env true).console = (env false).console := rfl
    refine ticks_congr hconsole e n s fun t ht c hc s => ?_
    cases c with
    | port id port => exact absurd hc (hnone t ht id port)
    | _ => rfl

/-- Behind a server, too: tripped after the first tick, the interlock refuses the port step
that is next. -/
theorem interlock_holds_onForASecond :
    let e := (ready (Reading.ofText onForASecond).sequence 1 false).start
    let server : Bench := ⟨.listed [(⟨"COM7"⟩, .m3141)], .ofList [(⟨"COM7"⟩, .m3141)]⟩
    let s : Site Bench Unit := ⟨.idle (.listed []), server, [], ()⟩
    let env := Site.surroundings .network "localhost:5000" (serverLink 5000) none true
    Reached (Reading.ofText onForASecond).sequence e ∧ (serverLink 5000).Serves id ∧
      Site.Spared id s (e.ticks env 5 s).2.2 ∧
      ((e.ticks env 1 s).2.1.tick env s).2.1.progress.tally = ⟨0, 0, 1⟩ ∧
      ((e.ticks env 1 s).2.1.tick env s).2.1.status = .stopped .fault := by
  intro e server s env
  have hreached : Reached (Reading.ofText onForASecond).sequence e := .start (.ready 1 false)
  obtain ⟨hspared, hrefused, -⟩ := interlock_holds hreached .network "localhost:5000"
    (serverLink_serves 5000) none s
  obtain ⟨-, -, -, -, -, hfailures, hstatus, -⟩ := hrefused 1 1 rfl rfl
  exact ⟨hreached, serverLink_serves 5000, hspared 5, rfl, hstatus⟩

end Execution

end SwitchBench
