import SwitchBench.Proofs.Run.Calls
import SwitchBench.Proofs.Run.Endings

/-! What a caller learns of its runs.

A caller makes calls on a runner, one after another, and between them the threads of its runs take
their steps (`Session.turn`). A session keeps each event with the run whose thread told it, and each
call with what it returned. Each run that was accepted is told from its beginning to its end, after
all of the runs before it (`Session.Sound`), and what it leaves behind is returned by the one call
that joins it, if any does (`Session.Settled`). None does once a start that is past all checks is
refused a thread: the slot is empty by then, and what was left behind there is lost. -/
namespace SwitchBench

/-! ### Starting -/

namespace Runner
variable {σ : Type} (env : Surroundings σ)

/-- What is told of looking for switches if it brings down the caller, and the world then. -/
def fallsLooking (s : σ) : List SwitchId → Option (List Event × σ)
  | [] => none
  | id :: rest =>
    if env.crashes (.read id .status) s then some ([], s)
    else match env.sink (.read id .status) s with
      | (.ok reply, s) =>
        (fallsLooking s rest).map fun (events, s) => (.dispatched (.read id .status) (.ok reply) :: events, s)
      | (.error _, _) => none

/-- The same, of starting a run. -/
def fallsStarting (r : Runner) (sequence : Sequence) (s : σ) : Option (List Event × σ) :=
  if r.isRunning || sequence.steps.isEmpty then none else fallsLooking env s sequence.requiredIds

end Runner

/-! ### Sessions -/

/-- A caller with its runner, in a state of the surroundings: what was told so far, each event with
the run whose thread told it, or with none while a start looked for switches, and the calls. -/
structure Session (σ : Type) where
  runner : Runner
  world : σ
  log : List (Option Nat × Event)
  calls : List Session.Entry

namespace Session
variable {σ : Type}

/-- A turn of the caller, or of a thread. -/
inductive Turn where
  | start (sequence : Sequence) (options : RunOptions)
  /-- A run, whose thread takes no more steps than that. -/
  | run (sequence : Sequence) (options : RunOptions) (steps : Nat)
  | stop
  /-- A wait for a run, whose thread takes no more steps than that. -/
  | wait (steps : Nat)
  /-- A question whether a run goes on. -/
  | ask
  /-- A step of the thread of a run. -/
  | advance (run : Nat)

/-- Nothing has been called. -/
def new (world : σ) : Session σ := ⟨.new, world, [], []⟩

/-- What the thread of a run has told. -/
def told (x : Session σ) (i : Nat) : List Event := (x.log.filter (·.1 == some i)).map (·.2)

def record (x : Session σ) (e : Entry) : Session σ := { x with calls := x.calls ++ [e] }

section
variable (env : Surroundings σ) (x : Session σ)

/-- With what is told while a start looks for switches. -/
def aside (events : List Event) (world : σ) : Session σ := { x with world, log := x.log ++ events.map (none, ·) }

/-- With one run more, which takes the slot. -/
def accept (sequence : Sequence) (options : RunOptions) : Session σ :=
  { x with runner := ⟨x.runner.runs ++ [Run.accepted sequence options], some x.runner.runs.length⟩ }

/-- With run `i` as it has become while its thread told of events. -/
def goOn (i : Nat) (r : Run) (events : List Event) (world : σ) : Session σ := { x with
  runner := { x.runner with runs := x.runner.runs.set i r }
  world
  log := x.log ++ events.map (some i, ·) }

/-- With nothing in the slot. -/
def free : Session σ := { x with runner := { x.runner with slot := none } }

/-- Starts a run and says what comes of that, unless the caller is brought down. -/
def attempt (sequence : Sequence) (options : RunOptions) : Option (Except RunError Unit) × Session σ :=
  match x.runner.fallsStarting env sequence x.world with
  | some (events, world) => (none, x.aside events world)
  | none =>
    let (result, events, runner, world) := x.runner.start env sequence options x.world
    (some result, { x.aside events world with runner })

/-- Waits for the run in the slot, if its thread ends within `n` steps. -/
def await (n : Nat) : Option (Except RunError Summary × Session σ) :=
  match x.runner.wait env n x.world with
  | (some result, events, runner, world) =>
    some (result, { x with runner, world, log := x.log ++ events.map (x.runner.slot, ·) })
  | (none, _) => none

/-- What a turn comes to. A wait does not come to its end unless the thread does. -/
def turn : Turn → Option (Session σ)
  | .start sequence options =>
    match x.attempt env sequence options with
    | (some (.ok ()), y) => some (y.record (.started sequence options))
    | (some (.error e), y) => some (y.record (.refused e))
    | (none, y) => some (y.record .fell)
  | .run sequence options n =>
    match x.attempt env sequence options with
    | (some (.ok ()), y) => (y.await env n).map fun (result, z) => z.record (.ran sequence options result)
    | (some (.error e), y) => some (y.record (.refused e))
    | (none, y) => some (y.record .fell)
  | .stop =>
    match x.runner.stop with
    | .ok runner => some ({ x with runner }.record (.stopped (.ok ())))
    | .error e => some (x.record (.stopped (.error e)))
  | .wait n => (x.await env n).map fun (result, y) => y.record (.waited result)
  | .ask => some (x.record (.asked x.runner.isRunning))
  | .advance i =>
    let (events, runner, world) := x.runner.advance env i x.world
    some { x with runner, world, log := x.log ++ events.map (some i, ·) }

end

/-- Turn after turn. -/
def turns (env : Surroundings σ) (x : Session σ) : List Turn → Option (Session σ)
  | [] => some x
  | t :: rest => (x.turn env t).bind fun x => turns env x rest

/-! ### What is told -/

/-- The runs and what is told of them: only the last run goes on, and only while it is in the slot;
each is told as it should be, after those before it. -/
structure Sound (x : Session σ) : Prop where
  slot_last : ∀ i, x.runner.slot = some i → i + 1 = x.runner.runs.length
  ended : ∀ i (r : Run), x.runner.runs[i]? = some r → x.runner.slot ≠ some i → r.isOver = true
  tells : ∀ i (r : Run), x.runner.runs[i]? = some r → r.Tells (x.told i)
  known : ∀ i ∈ x.log.filterMap (·.1), i < x.runner.runs.length
  apart : (x.log.filterMap (·.1)).Pairwise (· ≤ ·)

section
variable {x : Session σ} {i j : Nat} {r : Run} {events : List Event}

@[simp] theorem runs_accept (q : Sequence) (options : RunOptions) :
    (x.accept q options).runner.runs = x.runner.runs ++ [Run.accepted q options] := rfl

@[simp] theorem slot_accept (q : Sequence) (options : RunOptions) :
    (x.accept q options).runner.slot = some x.runner.runs.length := rfl

theorem told_aside (events : List Event) (world : σ) (i : Nat) : (x.aside events world).told i = x.told i := by
  simp [told, aside, List.filter_map, Function.comp_def]

theorem told_goOn_self (r : Run) (events : List Event) (world : σ) :
    (x.goOn i r events world).told i = x.told i ++ events := by
  simp [told, goOn, List.filter_map, Function.comp_def]

theorem told_goOn_of_ne (h : i ≠ j) (r : Run) (events : List Event) (world : σ) :
    (x.goOn i r events world).told j = x.told j := by
  simp [told, goOn, List.filter_map, Function.comp_def, h]

theorem runs_goOn_self (hr : x.runner.runs[i]? = some r) (r' : Run) (events : List Event) (world : σ) :
    (x.goOn i r' events world).runner.runs[i]? = some r' :=
  List.getElem?_set_self (List.getElem?_eq_some_iff.mp hr).1

theorem runs_goOn_of_ne (h : i ≠ j) (r : Run) (events : List Event) (world : σ) :
    (x.goOn i r events world).runner.runs[j]? = x.runner.runs[j]? := List.getElem?_set_ne h

theorem length_runs_goOn (r : Run) (events : List Event) (world : σ) :
    (x.goOn i r events world).runner.runs.length = x.runner.runs.length := List.length_set ..

theorem sound_new (world : σ) : (new world).Sound where
  slot_last _ h := by cases h
  ended _ _ h := by cases h
  tells _ _ h := by cases h
  known _ h := by cases h
  apart := .nil

/-- What is told of no run does not matter. -/
theorem Sound.aside (h : x.Sound) (events : List Event) (world : σ) : (x.aside events world).Sound := by
  have htags : (x.aside events world).log.filterMap (·.1) = x.log.filterMap (·.1) := by
    simp [Session.aside, List.filterMap_map]
  exact ⟨h.slot_last, h.ended, fun i r hr => x.told_aside events world i ▸ h.tells i r hr, htags ▸ h.known,
    htags ▸ h.apart⟩

/-- A run that is accepted is told after all others. -/
theorem Sound.accept (h : x.Sound) (hidle : x.runner.isRunning = false) (q : Sequence) (options : RunOptions) :
    (x.accept q options).Sound := by
  have hcases : ∀ i (r : Run), (x.accept q options).runner.runs[i]? = some r →
      x.runner.runs[i]? = some r ∨ (i = x.runner.runs.length ∧ r = .accepted q options) := by
    intro i r hr
    rw [runs_accept] at hr
    rcases Nat.lt_or_ge i x.runner.runs.length with hlt | hge
    · exact .inl (by rwa [List.getElem?_append_left hlt] at hr)
    · rw [List.getElem?_append_right hge, List.getElem?_singleton] at hr
      split at hr
      · exact .inr ⟨by omega, (Option.some.inj hr).symm⟩
      · cases hr
  refine ⟨fun i hi => ?_, fun i r hr hslot => ?_, fun i r hr => ?_, fun i hi => ?_, h.apart⟩
  · cases hi
    simp
  · rcases hcases i r hr with hr | ⟨rfl, -⟩
    · by_cases hi : x.runner.slot = some i
      · exact Runner.isOver_of_idle hidle hi hr
      · exact h.ended i r hr hi
    · exact absurd rfl hslot
  · rcases hcases i r hr with hr | ⟨rfl, rfl⟩
    · exact h.tells i r hr
    · -- Of a run that is new nothing has been told.
      refine .inl ⟨rfl, ?_⟩
      simp only [told, List.map_eq_nil_iff, List.filter_eq_nil_iff]
      intro entry hentry htag
      have hlt := h.known x.runner.runs.length (List.mem_filterMap.mpr ⟨entry, hentry, by simpa using htag⟩)
      exact Nat.lt_irrefl _ hlt
  · have hlt := h.known i hi
    simp only [runs_accept, List.length_append, List.length_singleton]
    omega

theorem Sound.record (h : x.Sound) (e : Entry) : (x.record e).Sound :=
  ⟨h.slot_last, h.ended, h.tells, h.known, h.apart⟩

/-- The run in the slot goes on, and its thread tells of that. -/
theorem Sound.goOn (h : x.Sound) (hslot : x.runner.slot = some i) (hr : x.runner.runs[i]? = some r) {r' : Run}
    (hcontinues : r.Continues events r') (world : σ) : (x.goOn i r' events world).Sound := by
  have hlt : i < x.runner.runs.length := (List.getElem?_eq_some_iff.mp hr).1
  have htags : (x.goOn i r' events world).log.filterMap (·.1) =
      x.log.filterMap (·.1) ++ List.replicate events.length i := by
    simp [Session.goOn, List.filterMap_map, List.map_const']
  refine ⟨fun j hj => ?_, fun j r hr hj => ?_, fun j s hs => ?_, fun j hj => ?_, ?_⟩
  · rw [length_runs_goOn]
    exact h.slot_last j hj
  · have hne : i ≠ j := fun he => hj (he ▸ hslot)
    rw [runs_goOn_of_ne hne] at hr
    exact h.ended j r hr hj
  · by_cases he : i = j
    · subst he
      rw [runs_goOn_self hr] at hs
      cases hs
      rw [told_goOn_self]
      exact hcontinues.tells _ (h.tells i r hr)
    · rw [runs_goOn_of_ne he] at hs
      rw [told_goOn_of_ne he]
      exact h.tells j s hs
  · rw [length_runs_goOn]
    rw [htags, List.mem_append] at hj
    rcases hj with hj | hj
    · exact h.known j hj
    · rwa [List.eq_of_mem_replicate hj]
  · -- The run is the last one, so that all that was told before is of it or of runs before it.
    rw [htags, List.pairwise_append]
    refine ⟨h.apart, List.pairwise_replicate.mpr (.inr (Nat.le_refl i)), fun j hj k hk => ?_⟩
    have hj := h.known j hj
    have hi := h.slot_last i hslot
    rw [List.eq_of_mem_replicate hk]
    omega

/-- A run that is over leaves the slot. -/
theorem Sound.free (h : x.Sound)
    (hover : ∀ i (r : Run), x.runner.slot = some i → x.runner.runs[i]? = some r → r.isOver = true) :
    x.free.Sound := by
  refine ⟨fun _ hi => ?_, fun i r hr _ => ?_, h.tells, h.known, h.apart⟩
  · cases hi
  · by_cases hi : x.runner.slot = some i
    · exact hover i r hi hr
    · exact h.ended i r hr hi

end

/-! ### What is returned -/

/-- A call that is made after others returns what the run that it joins left behind, and a wait that
joins none returns that there is none. -/
structure Returned (runner : Runner) (before : List Entry) (e : Entry) : Prop where
  joined : ∀ i result, Joins before i e → e.result? = some result → runner.outcome? i = some result
  nothing : ∀ result, e = .waited result → (∀ i, ¬ Awaited before i) → result = .error .notStarted

/-- The runs and the calls: each call that was accepted has its run, the slot is for the run that is
awaited, and every call has returned what it should. -/
structure Settled (x : Session σ) : Prop where
  accepted : x.runner.runs.map Run.charge = accepted x.calls
  awaited : ∀ i, x.runner.slot = some i ↔ Awaited x.calls i
  returned : ∀ before e after, x.calls = before ++ e :: after → Returned x.runner before e

theorem settled_new (world : σ) : (new world).Settled where
  accepted := rfl
  awaited i := iff_of_false (fun h => by cases h) not_awaited_nil
  returned before e after h := absurd h.symm (List.append_ne_nil_of_right_ne_nil before (List.cons_ne_nil e after))

/-- Runs that leave behind what they left behind have the same said of them. -/
theorem Returned.mono {runner runner' : Runner} {before : List Entry} {e : Entry} (h : Returned runner before e)
    (hkept : ∀ i o, runner.outcome? i = some o → runner'.outcome? i = some o) : Returned runner' before e :=
  ⟨fun i result hjoins hresult => hkept i result (h.joined i result hjoins hresult), h.nothing⟩

/-- A call that joins no run and is no wait returns nothing of a run. -/
theorem returned_of_result?_eq_none {runner : Runner} {before : List Entry} {e : Entry} (h : e.result? = none) :
    Returned runner before e :=
  ⟨fun i result _ hresult => (by rw [h] at hresult; cases hresult), fun result he => (by rw [he] at h; cases h)⟩

/-- **One call more.** -/
theorem Settled.concat {x y : Session σ} (h : x.Settled) {e : Entry} (hcalls : y.calls = x.calls ++ [e])
    (hruns : y.runner.runs.map Run.charge = x.runner.runs.map Run.charge ++ e.accepted?.toList)
    (hslot : ∀ i, y.runner.slot = some i ↔
      ((∃ sequence options, e = .started sequence options) ∧ x.runner.runs.length = i) ∨
        (e.settles = false ∧ x.runner.slot = some i))
    (hkept : ∀ i o, x.runner.outcome? i = some o → y.runner.outcome? i = some o)
    (hreturned : Returned y.runner x.calls e) : y.Settled where
  accepted := by
    rw [hruns, hcalls, accepted_append, h.accepted]
    cases he : e.accepted? <;> simp [Session.accepted, he]
  awaited i := by
    have hlength : x.runner.runs.length = (Session.accepted x.calls).length := by rw [← h.accepted, List.length_map]
    rw [hslot, hcalls, awaited_concat, hlength, h.awaited]
  returned before f after hsplit := by
    rw [hcalls] at hsplit
    rcases split_concat hsplit with ⟨-, rfl, rfl⟩ | ⟨rest, -, hold⟩
    · exact hreturned
    · exact (h.returned before f rest hold).mono hkept

section
variable {x : Session σ} {i : Nat} {r r' : Run} {events : List Event}

/-- The run in the slot goes on, and what was left behind stays. -/
theorem outcome?_goOn (hr : x.runner.runs[i]? = some r) (hcontinues : r.Continues events r') (world : σ) (j : Nat)
    (o : Except RunError Summary) (h : x.runner.outcome? j = some o) :
    (x.goOn i r' events world).runner.outcome? j = some o := by
  unfold Runner.outcome? at h ⊢
  by_cases hij : i = j
  · subst hij
    rw [runs_goOn_self hr]
    rw [hr] at h
    exact hcontinues.outcome o h
  · rwa [runs_goOn_of_ne hij]

theorem outcome?_goOn_self (hr : x.runner.runs[i]? = some r) {o : Except RunError Summary}
    (ho : r'.outcome? = some o) (events : List Event) (world : σ) :
    (x.goOn i r' events world).runner.outcome? i = some o := by
  rw [Runner.outcome?, runs_goOn_self hr]
  exact ho

theorem Settled.goOn (h : x.Settled) (hr : x.runner.runs[i]? = some r) (hcontinues : r.Continues events r')
    (world : σ) : (x.goOn i r' events world).Settled where
  accepted := by
    obtain ⟨hlt, rfl⟩ := List.getElem?_eq_some_iff.mp hr
    have hlt' : i < (x.runner.runs.map Run.charge).length := by rwa [List.length_map]
    have hcharge : r'.charge = (x.runner.runs.map Run.charge)[i] := by rw [List.getElem_map, hcontinues.charge]
    show (x.runner.runs.set i r').map Run.charge = _
    rw [List.map_set, hcharge, List.set_getElem_self]
    exact h.accepted
  awaited := h.awaited
  returned before e after hsplit := (h.returned before e after hsplit).mono (outcome?_goOn hr hcontinues world)

/-- A run that is over is no longer awaited once it is joined, by a wait, -/
theorem Settled.waited (h : x.Settled) {result : Except RunError Summary}
    (hjoined : ∀ i, x.runner.slot = some i → x.runner.outcome? i = some result)
    (hnothing : x.runner.slot = none → result = .error .notStarted) : (x.free.record (.waited result)).Settled := by
  refine h.concat (e := .waited result) rfl (by simp [free, record, Entry.accepted?])
    (fun i => by simp [free, record, Entry.settles]) (fun _ _ ho => ho) ⟨fun i _ hi he => ?_, fun _ he hi => ?_⟩
  · cases he
    exact hjoined i ((h.awaited i).mpr hi)
  · cases he
    refine hnothing ?_
    rw [Option.eq_none_iff_forall_ne_some]
    exact fun i hslot => hi i ((h.awaited i).mp hslot)

/-- or by the call itself that has accepted it. -/
theorem Settled.ran {calls : List Entry} {q : Sequence} {options : RunOptions} (h : x.Settled)
    (hcalls : x.calls = calls ++ [.started q options]) {result : Except RunError Summary}
    (hjoined : ∀ i, x.runner.slot = some i → x.runner.outcome? i = some result) :
    ({ x.free with calls := calls ++ [.ran q options result] } : Session σ).Settled where
  accepted := by
    show x.runner.runs.map Run.charge = _
    rw [h.accepted, hcalls, accepted_append, accepted_append]
    rfl
  awaited i := by
    rw [awaited_concat]
    refine iff_of_false (fun hslot => by cases hslot) ?_
    rintro (⟨⟨_, _, he⟩, -⟩ | ⟨he, -⟩) <;> cases he
  returned before e after hsplit := by
    rcases split_concat hsplit with ⟨-, rfl, rfl⟩ | ⟨rest, -, rfl⟩
    · refine ⟨fun i _ hi he => ?_, fun _ he => by cases he⟩
      cases he
      refine hjoined i ((h.awaited i).mpr ?_)
      rw [hcalls]
      exact awaited_concat.mpr (.inl ⟨⟨q, options, rfl⟩, hi⟩)
    · refine (h.returned before e (rest ++ [.started q options]) ?_).mono fun _ _ ho => ho
      rw [hcalls, List.append_assoc, List.cons_append]

end

/-! ### Turns -/

/-- What every turn preserves. -/
structure Kept (x : Session σ) : Prop where
  sound : x.Sound
  settled : x.Settled

section
variable {env : Surroundings σ} {x y : Session σ} {i n : Nat} {result : Except RunError Summary}

/-- A call that accepts no run and joins none. -/
theorem Kept.note (h : x.Kept) {e : Entry} (haccepted : e.accepted? = none) (hresult : e.result? = none)
    (hsettles : e.settles = false) : (x.record e).Kept where
  sound := h.sound.record e
  settled := by
    refine h.settled.concat (e := e) rfl (by simp [record, haccepted]) (fun i => ?_) (fun _ _ ho => ho)
      (returned_of_result?_eq_none hresult)
    have hne : ¬ ∃ sequence options, e = .started sequence options := by
      rintro ⟨sequence, options, rfl⟩
      cases haccepted
    simp [record, hsettles, hne]

theorem Kept.aside (h : x.Kept) (events : List Event) (world : σ) : (x.aside events world).Kept :=
  ⟨h.sound.aside events world, h.settled.accepted, h.settled.awaited, h.settled.returned⟩

theorem Kept.goOn (h : x.Kept) (hslot : x.runner.slot = some i) {r r' : Run} (hr : x.runner.runs[i]? = some r)
    {events : List Event} (hcontinues : r.Continues events r') (world : σ) : (x.goOn i r' events world).Kept :=
  ⟨h.sound.goOn hslot hr hcontinues world, h.settled.goOn hr hcontinues world⟩

/-- A run that is accepted, while none goes on. -/
theorem Kept.accept (h : x.Kept) (hidle : x.runner.isRunning = false) (q : Sequence) (options : RunOptions) :
    ((x.accept q options).record (.started q options)).Kept where
  sound := (h.sound.accept hidle q options).record _
  settled := by
    refine h.settled.concat (e := .started q options) rfl ?_ (fun i => ?_) (fun i o ho => ?_)
      (returned_of_result?_eq_none rfl)
    · simp [record, Run.charge, Execution.charge, Run.accepted, Execution.ready, Entry.accepted?]
    · simp [record, Entry.settles]
    · obtain ⟨r, hr, ho⟩ := Option.bind_eq_some_iff.mp ho
      show (x.runner.runs ++ [Run.accepted q options])[i]?.bind _ = some o
      rw [List.getElem?_append_left (List.getElem?_eq_some_iff.mp hr).1, hr]
      exact ho

/-- A start that is refused a thread leaves the slot empty, where nothing goes on. -/
theorem Kept.lose (h : x.Kept) (hidle : x.runner.isRunning = false) (reason : SystemError) :
    (x.free.record (.refused (.noThread reason))).Kept where
  sound := (h.sound.free fun _ _ => Runner.isOver_of_idle hidle).record _
  settled :=
    h.settled.concat (e := .refused (.noThread reason)) rfl (by simp [free, record, Entry.accepted?])
      (fun i => by simp [free, record, Entry.settles]) (fun _ _ ho => ho) (returned_of_result?_eq_none rfl)

/-- What an attempt to start a run comes to. -/
inductive Attempted (x : Session σ) (q : Sequence) (options : RunOptions) :
    Option (Except RunError Unit) → Session σ → Prop
  | fell (events : List Event) (world : σ) : Attempted x q options none (x.aside events world)
  | refused {e : RunError} (hgot : ∀ reason, e ≠ .noThread reason) (events : List Event) (world : σ) :
    Attempted x q options (some (.error e)) (x.aside events world)
  | lost (hidle : x.runner.isRunning = false) (reason : SystemError) (events : List Event) (world : σ) :
    Attempted x q options (some (.error (.noThread reason))) (x.aside events world).free
  | accepted (hidle : x.runner.isRunning = false) (events : List Event) (world : σ) :
    Attempted x q options (some (.ok ())) ((x.aside events world).accept q options)

theorem attempted {q : Sequence} {options : RunOptions} {result : Option (Except RunError Unit)}
    (h : x.attempt env q options = (result, y)) : x.Attempted q options result y := by
  unfold attempt at h
  split at h
  next events world _ =>
    cases h
    exact .fell events world
  next =>
    have hstarts := Runner.starts_start env x.runner q options x.world
    rcases hstart : x.runner.start env q options x.world with ⟨answer, events, runner, world⟩
    rw [hstart] at h hstarts
    cases h
    cases hstarts with
    | refused hgot => exact .refused hgot events world
    | lost hidle reason => exact .lost hidle reason events world
    | accepted hidle => exact .accepted hidle events world

/-- A wait finds nothing to wait for, -/
theorem await_of_none (hslot : x.runner.slot = none) (n : Nat) : x.await env n = some (.error .notStarted, x) := by
  unfold await Runner.wait Runner.take
  simp [hslot]

variable (env) in
/-- or the run in the slot goes on, and leaves the slot if it comes to its end. -/
theorem await_of_slot {r : Run} (hslot : x.runner.slot = some i) (hr : x.runner.runs[i]? = some r) (n : Nat) :
    x.await env n =
      let (events, r, world) := r.drive env n x.world
      r.outcome?.map fun result => (result, (x.goOn i r events world).free) := by
  have hlt : i < x.runner.runs.length := (List.getElem?_eq_some_iff.mp hr).1
  unfold await Runner.wait Runner.take
  simp only [hslot, Runner.drive, hr, Runner.outcome?, List.getElem?_set_self hlt, Option.bind_some]
  cases (r.drive env n x.world).2.1.outcome? <;> rfl

/-- What is in the slot is a run. -/
theorem Sound.exists_run (h : x.Sound) (hslot : x.runner.slot = some i) : ∃ r, x.runner.runs[i]? = some r := by
  have hlast := h.slot_last i hslot
  exact ⟨_, List.getElem?_eq_getElem (show i < x.runner.runs.length by omega)⟩

/-- After a run was joined, nothing is in the slot. -/
theorem Sound.join (h : x.Sound) (hslot : x.runner.slot = some i) (hjoined : x.runner.outcome? i = some result) :
    x.free.Sound := by
  refine h.free fun j r hj hr => ?_
  cases hslot.symm.trans hj
  rw [Runner.outcome?, hr] at hjoined
  rw [← r.isSome_outcome?]
  exact Option.isSome_of_eq_some hjoined

/-- **A wait.** -/
theorem Kept.wait (h : x.Kept) (hawait : x.await env n = some (result, y)) : (y.record (.waited result)).Kept := by
  cases hslot : x.runner.slot with
  | none =>
    rw [await_of_none hslot] at hawait
    cases hawait
    have hfree : x.free = x := by unfold free; rw [← hslot]
    refine ⟨h.sound.record _, hfree ▸ h.settled.waited (fun i hi => ?_) fun _ => rfl⟩
    rw [hslot] at hi
    cases hi
  | some i =>
    obtain ⟨r, hr⟩ := h.sound.exists_run hslot
    rw [await_of_slot env hslot hr] at hawait
    obtain ⟨o, ho, he⟩ := Option.map_eq_some_iff.mp hawait
    cases he
    have hz := h.goOn hslot hr (Run.continues_drive env n r x.world) (r.drive env n x.world).2.2
    have hjoined := outcome?_goOn_self hr ho (r.drive env n x.world).1 (r.drive env n x.world).2.2
    refine ⟨(hz.sound.join hslot hjoined).record _, hz.settled.waited (fun j hj => ?_) fun hnone => ?_⟩
    · cases hslot.symm.trans hj
      exact hjoined
    · cases hslot.symm.trans hnone

/-- **A run** whose start is accepted, and that is waited for. -/
theorem Kept.run {q : Sequence} {options : RunOptions} (h : (x.record (.started q options)).Kept)
    (hslot : x.runner.slot = some i) (hawait : x.await env n = some (result, y)) :
    (y.record (.ran q options result)).Kept := by
  obtain ⟨r, hr⟩ := h.sound.exists_run hslot
  rw [await_of_slot env hslot hr] at hawait
  obtain ⟨o, ho, he⟩ := Option.map_eq_some_iff.mp hawait
  cases he
  have hz := h.goOn hslot hr (Run.continues_drive env n r x.world) (r.drive env n x.world).2.2
  have hjoined := outcome?_goOn_self hr ho (r.drive env n x.world).1 (r.drive env n x.world).2.2
  have hsound := hz.sound.join hslot hjoined
  refine ⟨⟨hsound.slot_last, hsound.ended, hsound.tells, hsound.known, hsound.apart⟩, hz.settled.ran rfl ?_⟩
  intro j hj
  cases hslot.symm.trans hj
  exact hjoined

/-- **A stop** asks the run in the slot. -/
theorem Kept.stop (h : x.Kept) {runner : Runner} (hstop : x.runner.stop = .ok runner) :
    ({ x with runner } : Session σ).Kept := by
  unfold Runner.stop at hstop
  split at hstop
  next i hslot =>
    cases hstop
    obtain ⟨r, hr⟩ := h.sound.exists_run hslot
    have hgoes := h.goOn hslot hr (Run.continues_asked _) x.world
    simpa [Session.goOn, List.modify_eq_set_getElem?, hr] using hgoes
  next => cases hstop

/-- **A step of a thread.** -/
theorem Kept.advance (h : x.Kept) (i : Nat) :
    ({ x with
      runner := (x.runner.advance env i x.world).2.1
      world := (x.runner.advance env i x.world).2.2
      log := x.log ++ (x.runner.advance env i x.world).1.map (some i, ·) } : Session σ).Kept := by
  unfold Runner.advance
  cases hr : x.runner.runs[i]? with
  | none => simpa using h
  | some r =>
    by_cases hslot : x.runner.slot = some i
    · exact h.goOn hslot hr (Run.continues_step env r x.world) _
    · -- Out of the slot the run is over, and its thread does nothing.
      obtain ⟨hlt, rfl⟩ := List.getElem?_eq_some_iff.mp hr
      simpa [Run.step_of_isOver (h.sound.ended i _ hr hslot)] using h

/-- **An attempt** that accepts a run, -/
theorem Kept.started (h : x.Kept) {q : Sequence} {options : RunOptions}
    (hattempt : x.attempt env q options = (some (.ok ()), y)) :
    (y.record (.started q options)).Kept ∧ y.runner.slot = some x.runner.runs.length := by
  cases attempted hattempt with
  | accepted hidle events world => exact ⟨(h.aside events world).accept hidle q options, rfl⟩

/-- one that does not, -/
theorem Kept.refused (h : x.Kept) {q : Sequence} {options : RunOptions} {e : RunError}
    (hattempt : x.attempt env q options = (some (.error e), y)) : (y.record (.refused e)).Kept := by
  cases attempted hattempt with
  | refused hgot events world => exact (h.aside events world).note rfl rfl (Entry.settles_refused hgot)
  | lost hidle reason events world => exact (h.aside events world).lose hidle reason

/-- and one that brings down its caller. -/
theorem Kept.fell (h : x.Kept) {q : Sequence} {options : RunOptions}
    (hattempt : x.attempt env q options = (none, y)) : (y.record .fell).Kept := by
  cases attempted hattempt with
  | fell events world => exact (h.aside events world).note rfl rfl rfl

/-- **Every turn keeps** what is to be kept. -/
theorem Kept.turn (h : x.Kept) {t : Turn} (ht : x.turn env t = some y) : y.Kept := by
  cases t with
  | start q options =>
    simp only [Session.turn] at ht
    split at ht
    next hattempt => cases ht; exact (h.started hattempt).1
    next hattempt => cases ht; exact h.refused hattempt
    next hattempt => cases ht; exact h.fell hattempt
  | run q options n =>
    simp only [Session.turn] at ht
    split at ht
    next hattempt =>
      obtain ⟨⟨result, z⟩, hawait, rfl⟩ := Option.map_eq_some_iff.mp ht
      obtain ⟨hstarted, hslot⟩ := h.started hattempt
      exact hstarted.run hslot hawait
    next hattempt => cases ht; exact h.refused hattempt
    next hattempt => cases ht; exact h.fell hattempt
  | stop =>
    simp only [Session.turn] at ht
    split at ht
    next hstop => cases ht; exact (h.stop hstop).note rfl rfl rfl
    next => cases ht; exact h.note rfl rfl rfl
  | wait n =>
    obtain ⟨⟨result, z⟩, hawait, rfl⟩ := Option.map_eq_some_iff.mp ht
    exact h.wait hawait
  | ask =>
    cases ht
    exact h.note rfl rfl rfl
  | advance i =>
    cases ht
    exact h.advance i

theorem Kept.turns (h : x.Kept) {ts : List Turn} (hts : x.turns env ts = some y) : y.Kept := by
  induction ts generalizing x with
  | nil => cases hts; exact h
  | cons t rest ih =>
    obtain ⟨z, hz, hrest⟩ := Option.bind_eq_some_iff.mp hts
    exact ih (h.turn hz) hrest

end

/-! ### What the caller learns -/

section
variable {env : Surroundings σ} {x : Session σ} {i : Nat} {result : Except RunError Summary}

end

/-- Where threads run short, a run that is over is lost to a start that gets none. -/
example :
    let env : Surroundings Nat := {
      sink := fun c threads => (.error (.noResponse c.id), threads)
      console := none
      crashes := fun _ _ => false
      thread := fun threads => (if threads = 0 then .error .exhausted else .ok (), threads - 1) }
    let q : Sequence := ⟨[.delay 5], .empty⟩
    ((new 1).turns env [.start q .standard, .advance 0, .advance 0, .advance 0, .start q .standard, .wait 5]).map
      (·.calls) =
        some [.started q .standard, .refused (.noThread .exhausted), .waited (.error .notStarted)] :=
  rfl

end Session

end SwitchBench
