import SwitchBench.Proofs.Run.Sessions
import SwitchBench.Proofs.Text.Order

/-! Starts that are refused.

A start is refused while a run goes on in the slot and for a script without steps, and then nothing
is told or done. Else the switches that the script takes are asked for their status in the order of
their bytes, up to the first that fails. Whatever of these a start is refused for, later calls return
what they would have returned without it, until another run is started (`Session.Answered`). Only a
start that is past all checks and is refused a thread leaves something else behind, an empty slot. -/
namespace SwitchBench

/-! ### Asking switches -/

/-- The switches that a script takes come in the order of their bytes, each once. -/
theorem Sequence.requiredIds_bytes_ordered (q : Sequence) :
    (q.requiredIds.map fun id => utf8 id.text.toList).Pairwise (· < ·) :=
  List.pairwise_map.mpr (q.required.ids_ordered.imp fun h => utf8_lt (String.lt_iff.mp h))

namespace Runner
variable {σ : Type} (env : Surroundings σ)

/-- What switches answer that are asked for their status one after another, and the world then. -/
def statuses (s : σ) : List SwitchId → List (SwitchId × Except DispatchError Reply) × σ
  | [] => ([], s)
  | id :: rest =>
    let (answer, s) := env.sink (.read id .status) s
    let (answers, s) := statuses s rest
    ((id, answer) :: answers, s)

/-- What is told of their answers. -/
def asking (answers : List (SwitchId × Except DispatchError Reply)) : List Event :=
  answers.map fun (id, answer) => .dispatched (.read id .status) answer

/-- No answer is an error. -/
def AllWell (answers : List (SwitchId × Except DispatchError Reply)) : Prop :=
  ∀ a ∈ answers, ∃ reply, a.2 = .ok reply

/-- What becomes of looking for switches: all of them answer, or it ends with the first that fails. -/
inductive Looks (s : σ) (ids : List SwitchId) : Except RunError Unit × List Event × σ → Prop
  | found {answers : List (SwitchId × Except DispatchError Reply)} {t : σ}
    (hasked : statuses env s ids = (answers, t)) (hwell : AllWell answers) :
    Looks s ids (.ok (), asking answers, t)
  | missing {before after : List SwitchId} {id : SwitchId}
    {answers : List (SwitchId × Except DispatchError Reply)} {e : DispatchError} {t : σ}
    (hids : ids = before ++ id :: after)
    (hasked : statuses env s (before ++ [id]) = (answers ++ [(id, .error e)], t)) (hwell : AllWell answers) :
    Looks s ids (.error (.missingSwitch id e), asking (answers ++ [(id, .error e)]), t)

theorem looks_lookFor (s : σ) (ids : List SwitchId) : Looks env s ids (lookFor env s ids) := by
  induction ids generalizing s with
  | nil => exact .found rfl fun a ha => by cases ha
  | cons id rest ih =>
    unfold lookFor
    rcases hsink : env.sink (.read id .status) s with ⟨e | reply, u⟩
    · have hids : id :: rest = [] ++ id :: rest := rfl
      have hasked : statuses env s ([] ++ [id]) = ([] ++ [(id, .error e)], u) := by simp [statuses, hsink]
      exact .missing hids hasked fun a ha => by cases ha
    · have hcons : ∀ {answers}, AllWell answers → AllWell ((id, .ok reply) :: answers) := by
        intro answers hwell a ha
        rcases List.mem_cons.mp ha with rfl | ha
        · exact ⟨reply, rfl⟩
        · exact hwell a ha
      have hrest := ih u
      dsimp only
      generalize lookFor env u rest = looked at hrest ⊢
      cases hrest with
      | found hasked hwell => exact .found (by simp [statuses, hsink, hasked]) (hcons hwell)
      | @missing before after missed answers e t hids hasked hwell =>
        have hids' : id :: rest = (id :: before) ++ missed :: after := congrArg (id :: ·) hids
        have hasked' : statuses env s ((id :: before) ++ [missed]) =
            (((id, .ok reply) :: answers) ++ [(missed, .error e)], t) := by
          simp [statuses, hsink, hasked]
        exact .missing hids' hasked' (hcons hwell)

end Runner

/-! ### Without the start -/

namespace Session
variable {σ : Type}

/-- Whether a turn is to start a run. -/
def Turn.starts : Turn → Bool
  | .start .. | .run .. => true
  | .stop | .wait _ | .ask | .advance _ => false

/-- From two sessions on, the same calls are made and return the same. -/
def SameCalls (x y x' y' : Session σ) : Prop := ∃ more, x'.calls = x.calls ++ more ∧ y'.calls = y.calls ++ more

/-- What calls return is the same in two sessions: the same run is in the slot, and while it goes on,
all else is the same. -/
structure Alike (x y : Session σ) : Prop where
  slot : x.runner.slot = y.runner.slot
  active : x.runner.active? = y.runner.active?
  goes : x.runner.isRunning = true → x.runner = y.runner ∧ x.world = y.world

section
variable {env : Surroundings σ} {x y x' y' : Session σ} {i : Nat}

theorem SameCalls.refl (x y : Session σ) : SameCalls x y x y :=
  ⟨[], (List.append_nil _).symm, (List.append_nil _).symm⟩

theorem SameCalls.trans {x'' y'' : Session σ} (h : SameCalls x y x' y') (h' : SameCalls x' y' x'' y'') :
    SameCalls x y x'' y'' := by
  obtain ⟨more, hx, hy⟩ := h
  obtain ⟨later, hx', hy'⟩ := h'
  exact ⟨more ++ later, by rw [hx', hx, List.append_assoc], by rw [hy', hy, List.append_assoc]⟩

/-- Sessions in which the same goes on are alike. -/
theorem Alike.of_eq (hrunner : x.runner = y.runner) (hworld : x.world = y.world) : x.Alike y :=
  ⟨hrunner ▸ rfl, hrunner ▸ rfl, fun _ => ⟨hrunner, hworld⟩⟩

theorem isRunning_of_active? {r r' : Runner} (h : r.active? = r'.active?) : r.isRunning = r'.isRunning := by
  rw [Runner.isRunning, Runner.isRunning, h]

theorem Alike.record (h : x.Alike y) (e f : Entry) : (x.record e).Alike (y.record f) := ⟨h.slot, h.active, h.goes⟩

/-- **A turn** while a run goes on in both. -/
theorem turn_of_eq (hrunner : x.runner = y.runner) (hworld : x.world = y.world) {t : Turn} (ht : t.starts = false) :
    Option.Rel (fun x' y' => x'.Alike y' ∧ SameCalls x y x' y') (x.turn env t) (y.turn env t) := by
  obtain ⟨r, s, l, c⟩ := x
  obtain ⟨r', s', l', c'⟩ := y
  cases hrunner
  cases hworld
  cases t with
  | start | run => cases ht
  | stop =>
    simp only [turn]
    cases r.stop with
    | ok runner => exact .some ⟨.of_eq rfl rfl, [_], rfl, rfl⟩
    | error e => exact .some ⟨.of_eq rfl rfl, [_], rfl, rfl⟩
  | wait n =>
    simp only [turn, await]
    rcases r.wait env n s with ⟨_ | result, events, runner, world⟩
    · exact .none
    · exact .some ⟨.of_eq rfl rfl, [_], rfl, rfl⟩
  | ask => exact .some ⟨.of_eq rfl rfl, [_], rfl, rfl⟩
  | advance i => exact .some ⟨.of_eq rfl rfl, .refl ..⟩

/-- The run in the slot, if any, is over in both sessions. -/
theorem Alike.of_rest (hslot : x.runner.slot = y.runner.slot) (hactive : x.runner.active? = y.runner.active?)
    (hrest : x.runner.isRunning = false) : x.Alike y :=
  ⟨hslot, hactive, fun h => absurd (hrest.symm.trans h) Bool.false_ne_true⟩

variable (env) in
/-- A step of any thread leaves a run in the slot that is over. -/
theorem active?_advance (hrest : x.runner.isRunning = false) (i : Nat) :
    (x.runner.advance env i x.world).2.1.active? = x.runner.active? ∧
      (x.runner.advance env i x.world).2.1.slot = x.runner.slot := by
  unfold Runner.advance
  cases hr : x.runner.runs[i]? with
  | none => exact ⟨rfl, rfl⟩
  | some r =>
    refine ⟨?_, rfl⟩
    have hlt : i < x.runner.runs.length := (List.getElem?_eq_some_iff.mp hr).1
    unfold Runner.active?
    cases hslot : x.runner.slot with
    | none => rfl
    | some j =>
      simp only [Option.bind_some]
      by_cases hij : i = j
      · subst hij
        rw [List.getElem?_set_self hlt, Run.step_of_isOver (Runner.isOver_of_idle hrest hslot hr), hr]
      · exact List.getElem?_set_ne hij

/-- A stop asks the run in the slot. -/
theorem stop_of_slot {r : Runner} (hslot : r.slot = some i) : ∃ r', r.stop = .ok r' ∧ r'.slot = r.slot ∧
    r'.active? = r.active?.map fun run => { run with stopAsked := true } := by
  refine ⟨_, by rw [Runner.stop, hslot], hslot.symm, ?_⟩
  rw [Runner.active?, Runner.active?, hslot]
  exact List.getElem?_modify_eq ..

/-- A wait at rest takes the run out of the slot and does nothing else. -/
theorem await_of_rest (hrest : x.runner.isRunning = false) (n : Nat) :
    x.await env n = match x.runner.slot, x.runner.active? with
      | none, _ => some (.error .notStarted, x)
      | some _, none => none
      | some _, some r => r.outcome?.map fun result => (result, x.free) := by
  cases hslot : x.runner.slot with
  | none => exact await_of_none hslot n
  | some i =>
    cases hr : x.runner.runs[i]? with
    | none => simp [await, Runner.wait, Runner.take, Runner.drive, Runner.outcome?, Runner.active?, hslot, hr]
    | some r =>
      have hactive : x.runner.active? = some r := by rw [Runner.active?, hslot]; exact hr
      rw [await_of_slot env hslot hr, Run.drive_of_isOver (Runner.isOver_of_idle hrest hslot hr), hactive]
      obtain ⟨hlt, rfl⟩ := List.getElem?_eq_some_iff.mp hr
      simp [goOn, free]

/-- **A turn** at rest. -/
theorem turn_of_rest (h : x.Alike y) (hrest : x.runner.isRunning = false) {t : Turn} (ht : t.starts = false) :
    Option.Rel (fun x' y' => x'.Alike y' ∧ SameCalls x y x' y') (x.turn env t) (y.turn env t) := by
  have hrunning := isRunning_of_active? h.active
  have hrest' : y.runner.isRunning = false := hrunning ▸ hrest
  cases t with
  | start | run => cases ht
  | stop =>
    simp only [turn]
    cases hslot : x.runner.slot with
    | none =>
      simp only [Runner.stop, ← h.slot, hslot]
      exact .some ⟨h.record _ _, [_], rfl, rfl⟩
    | some i =>
      obtain ⟨r, hstop, hr, hactive⟩ := stop_of_slot hslot
      obtain ⟨r', hstop', hr', hactive'⟩ := stop_of_slot (h.slot ▸ hslot)
      rw [hstop, hstop']
      refine .some ⟨.record (.of_rest (hr.trans (h.slot.trans hr'.symm)) ?_ ?_) _ _, [_], rfl, rfl⟩
      · exact hactive.trans (h.active ▸ hactive'.symm)
      · rw [Runner.isRunning, hactive, Option.any_map]
        exact hrest
  | wait n =>
    simp only [turn, await_of_rest hrest, await_of_rest hrest', ← h.slot, ← h.active]
    cases x.runner.slot with
    | none => exact .some ⟨h.record _ _, [_], rfl, rfl⟩
    | some i =>
      cases x.runner.active? with
      | none => exact .none
      | some r =>
        dsimp only
        cases r.outcome? with
        | none => exact .none
        | some result => exact .some ⟨.of_rest rfl rfl rfl, [_], rfl, rfl⟩
  | ask => exact .some ⟨h.record _ _, [_], rfl, by rw [hrunning]; rfl⟩
  | advance i =>
    obtain ⟨hactive, hslot⟩ := active?_advance env hrest i
    obtain ⟨hactive', hslot'⟩ := active?_advance env hrest' i
    exact .some ⟨.of_rest (hslot.trans (h.slot.trans hslot'.symm)) (hactive.trans (h.active.trans hactive'.symm))
      ((isRunning_of_active? hactive).trans hrest), .refl ..⟩

/-- **Turn after turn** none of which starts a run. -/
theorem Alike.turns (h : x.Alike y) {later : List Turn} (hlater : ∀ t ∈ later, t.starts = false) :
    Option.Rel (SameCalls x y) (x.turns env later) (y.turns env later) := by
  induction later generalizing x y with
  | nil => exact .some (.refl ..)
  | cons t rest ih =>
    obtain ⟨ht, hrest⟩ := List.forall_mem_cons.mp hlater
    have hturn : Option.Rel (fun x' y' => x'.Alike y' ∧ SameCalls x y x' y') (x.turn env t) (y.turn env t) := by
      cases hrunning : x.runner.isRunning with
      | true => exact turn_of_eq (h.goes hrunning).1 (h.goes hrunning).2 ht
      | false => exact turn_of_rest h hrunning ht
    rw [Session.turns, Session.turns]
    cases hx : x.turn env t with
    | none =>
      cases hy : y.turn env t with
      | none => exact .none
      | some y' => rw [hx, hy] at hturn; cases hturn
    | some x' =>
      cases hy : y.turn env t with
      | none => rw [hx, hy] at hturn; cases hturn
      | some y' =>
        rw [hx, hy] at hturn
        obtain ⟨halike, hsame⟩ : x'.Alike y' ∧ SameCalls x y x' y' := by cases hturn; assumption
        have hturns := ih halike hrest
        show Option.Rel (SameCalls x y) (x'.turns env rest) (y'.turns env rest)
        revert hturns
        generalize x'.turns env rest = u, y'.turns env rest = v
        rintro (⟨hlast⟩ | _)
        · exact .some (hsame.trans hlast)
        · exact .none

end

/-! ### The start -/

/-- How a start comes out that looks for the switches of its script: all of them answer and it is
accepted or refused a thread, or the first that fails is told of and it is refused. -/
inductive Looked (env : Surroundings σ) (x : Session σ) (q : Sequence) (options : RunOptions) : Session σ → Prop
  | accepted {answers : List (SwitchId × Except DispatchError Reply)} {t u : σ}
    (hasked : Runner.statuses env x.world q.requiredIds = (answers, t)) (hwell : Runner.AllWell answers)
    (hthread : env.thread t = (.ok (), u)) :
    Looked env x q options
      (((x.aside (Runner.asking answers) u).accept q options).record (.started q options))
  | lost {answers : List (SwitchId × Except DispatchError Reply)} {t u : σ} {reason : SystemError}
    (hasked : Runner.statuses env x.world q.requiredIds = (answers, t)) (hwell : Runner.AllWell answers)
    (hthread : env.thread t = (.error reason, u)) :
    Looked env x q options
      ((x.aside (Runner.asking answers) u).free.record (.refused (.noThread reason)))
  | refused {before after : List SwitchId} {id : SwitchId} {answers : List (SwitchId × Except DispatchError Reply)}
    {e : DispatchError} {t : σ} (hids : q.requiredIds = before ++ id :: after)
    (hasked : Runner.statuses env x.world (before ++ [id]) = (answers ++ [(id, .error e)], t))
    (hwell : Runner.AllWell answers) :
    Looked env x q options
      ((x.aside (Runner.asking (answers ++ [(id, .error e)]) ++ [.runRejected (.missingSwitch id e)]) t).record
        (.refused (.missingSwitch id e)))

/-- What can be relied on of a start, which leads from one session to another. That a run goes on means
here that the run in the slot does. Where callers share the runner there may be another one that goes on,
taken out of the slot by a caller that waits for it; a start takes no notice of that. -/
structure Answered (env : Surroundings σ) (x : Session σ) (q : Sequence) (options : RunOptions) (y : Session σ) :
    Prop where
  /-- While a run goes on, and of a script without steps, no run is started and nothing told or done. -/
  running : x.runner.isRunning = true → y = x.record (.refused .alreadyRunning)
  empty : x.runner.isRunning = false → q.steps = [] → y = x.record (.refused .emptySequence)
  /-- Else the switches are asked for their status, unless that brings down the caller, -/
  looked : x.runner.isRunning = false → q.steps ≠ [] → Runner.fallsLooking env x.world q.requiredIds = none →
    Looked env x q options y
  /-- in the order of their bytes. -/
  ordered : (q.requiredIds.map fun id => utf8 id.text.toList).Pairwise (· < ·)
  /-- If no run is started and none is refused a thread, the runner is as it was, -/
  kept : y.calls ≠ x.calls ++ [.started q options] →
    (∀ reason, y.calls ≠ x.calls ++ [.refused (.noThread reason)]) → y.runner = x.runner
  /-- and later calls return what they would have returned without the start. -/
  later : y.calls ≠ x.calls ++ [.started q options] →
    (∀ reason, y.calls ≠ x.calls ++ [.refused (.noThread reason)]) →
    ∀ later : List Turn, (∀ t ∈ later, t.starts = false) →
      Option.Rel (SameCalls x y) (x.turns env later) (y.turns env later)
  /-- Where one call was made after another, any run that goes on is in the slot. -/
  goes : (∃ world ts, (new world).turns env ts = some x) →
    (x.runner.isRunning = true ↔ ∃ r ∈ x.runner.runs, r.isOver = false)

section
variable {env : Surroundings σ} {x : Session σ} {q : Sequence}

theorem turn_start_running (hrunning : x.runner.isRunning = true) (options : RunOptions) :
    x.turn env (.start q options) = some (x.record (.refused .alreadyRunning)) := by
  simp [turn, attempt, Runner.fallsStarting, Runner.start, Runner.checkIdle, aside, hrunning]

theorem turn_start_empty (hidle : x.runner.isRunning = false) (hsteps : q.steps = []) (options : RunOptions) :
    x.turn env (.start q options) = some (x.record (.refused .emptySequence)) := by
  simp [turn, attempt, Runner.fallsStarting, Runner.start, Runner.checkIdle, aside, hidle, hsteps]

/-- **A start** that looks for switches. -/
theorem turn_start_looked (hidle : x.runner.isRunning = false) (hsteps : q.steps ≠ [])
    (hstands : Runner.fallsLooking env x.world q.requiredIds = none) (options : RunOptions) :
    ∃ y, x.turn env (.start q options) = some y ∧ Looked env x q options y := by
  have hlooks := Runner.looks_lookFor env x.world q.requiredIds
  simp only [turn, attempt, Runner.fallsStarting, Runner.start, Runner.checkIdle, Runner.preflight, Runner.store,
    hidle, hstands, List.isEmpty_iff, hsteps, Bool.false_eq_true, Bool.false_or, if_false, ite_self]
  generalize Runner.lookFor env x.world q.requiredIds = looked at hlooks ⊢
  cases hlooks with
  | @found answers t hasked hwell =>
    rcases hthread : env.thread t with ⟨reason | ⟨⟩, u⟩
    · refine ⟨_, ?_, .lost hasked hwell hthread⟩
      simp only [hthread]
      rfl
    · refine ⟨_, ?_, .accepted hasked hwell hthread⟩
      simp only [hthread]
      rfl
  | missing hids hasked hwell => exact ⟨_, rfl, .refused hids hasked hwell⟩

theorem isRunning_iff_of_sound (h : x.Sound) :
    x.runner.isRunning = true ↔ ∃ r ∈ x.runner.runs, r.isOver = false := by
  constructor
  · intro hrunning
    obtain ⟨r, hactive, hr⟩ : ∃ r, x.runner.active? = some r ∧ r.isOver = false := by
      simpa [Runner.isRunning, Option.any_eq_true] using hrunning
    obtain ⟨i, hslot, hi⟩ := Option.bind_eq_some_iff.mp hactive
    exact ⟨r, List.mem_of_getElem? hi, hr⟩
  · rintro ⟨r, hmem, hr⟩
    obtain ⟨i, hi⟩ := List.getElem?_of_mem hmem
    by_cases hslot : x.runner.slot = some i
    · have hactive : x.runner.active? = some r := by rw [Runner.active?, hslot]; exact hi
      simp [Runner.isRunning, hactive, hr]
    · cases hr.symm.trans (h.ended i r hi hslot)

/-- A start that is neither accepted nor refused a thread only tells of switches, and if a run goes on not
even that. -/
theorem kept_of_not_started {y : Session σ} {options : RunOptions} (hy : x.turn env (.start q options) = some y)
    (hnot : y.calls ≠ x.calls ++ [.started q options])
    (hgot : ∀ reason, y.calls ≠ x.calls ++ [.refused (.noThread reason)]) : y.runner = x.runner ∧ x.Alike y := by
  cases hrunning : x.runner.isRunning with
  | true =>
    cases (turn_start_running hrunning options).symm.trans hy
    exact ⟨rfl, .of_eq rfl rfl⟩
  | false =>
    simp only [turn] at hy
    split at hy
    next hattempt =>
      cases hy
      cases attempted hattempt with
      | accepted => exact absurd rfl hnot
    next hattempt =>
      cases hy
      cases attempted hattempt with
      | refused => exact ⟨rfl, .of_rest rfl rfl hrunning⟩
      | lost hidle reason => exact absurd rfl (hgot reason)
    next hattempt =>
      cases hy
      cases attempted hattempt with
      | fell => exact ⟨rfl, .of_rest rfl rfl hrunning⟩

end

/-- **What comes of a start**, in whatever state the runner is and whatever the switches answer. Whether a
run goes on is read off the slot. -/
theorem start_answered (env : Surroundings σ) (x : Session σ) (q : Sequence) (options : RunOptions) :
    ∃ y, x.turn env (.start q options) = some y ∧ x.Answered env q options y := by
  obtain ⟨y, hy⟩ : ∃ y, x.turn env (.start q options) = some y := by
    simp only [turn]
    split <;> exact ⟨_, rfl⟩
  refine ⟨y, hy, ?_⟩
  exact {
    running := fun hrunning => Option.some.inj (hy.symm.trans (turn_start_running hrunning options))
    empty := fun hidle hsteps => Option.some.inj (hy.symm.trans (turn_start_empty hidle hsteps options))
    looked := fun hidle hsteps hstands => by
      obtain ⟨z, hz, hlooked⟩ := turn_start_looked hidle hsteps hstands options
      cases hy.symm.trans hz
      exact hlooked
    ordered := q.requiredIds_bytes_ordered
    kept := fun hnot hgot => (kept_of_not_started hy hnot hgot).1
    later := fun hnot hgot later hlater => (kept_of_not_started hy hnot hgot).2.turns hlater
    goes := by
      rintro ⟨world, ts, hts⟩
      exact isRunning_iff_of_sound (Kept.turns ⟨sound_new world, settled_new world⟩ hts).sound }

/-- After a start that is refused for want of a switch, the run before it is still there to be waited for. -/
example :
    let q : Sequence := ⟨[.delay 5], .empty⟩
    let missing : Sequence := ⟨[.select "a"], [("a", ⟨⟨"COM7"⟩, .m3141⟩)], by decide⟩
    ((new ()).turns .silent [.start q .standard, .advance 0, .advance 0, .advance 0, .start missing .standard,
      .wait 0]).map (·.calls) =
        some [.started q .standard, .refused (.missingSwitch ⟨"COM7"⟩ (.noResponse ⟨"COM7"⟩)),
          .waited (.ok ⟨.completed, 0, ⟨1, 0, 0⟩, 1⟩)] :=
  rfl

end Session

end SwitchBench
