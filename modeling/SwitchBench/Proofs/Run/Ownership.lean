import SwitchBench.Proofs.Run.Starting

/-! Who owns a run.

Any number of callers share a runner. A call takes the steps that the runner takes with
its slot locked, and between them other callers and the threads of the runs go on
(`Shared.act`). Every run that is not over is in the slot or taken by exactly one caller
that waits for it (`Shared.Kept`). While it is taken, the other callers find an empty
slot: they are told that nothing runs, cannot stop the run, and may start another. So
the runner owns the run that goes on exactly as long as nobody waits for it. -/
namespace SwitchBench

/-- Where a caller stands. -/
inductive Call where
  /-- Between calls. -/
  | away
  /-- Starting a run, with the switches that are still to be looked for. -/
  | looking (sequence : Sequence) (options : RunOptions) (left : List SwitchId)
  /-- Waiting for the thread of a run that was taken out of the slot. -/
  | joining (run : Nat)

/-- A runner that callers share, in a state of the surroundings. -/
structure Shared (σ : Type) where
  runner : Runner
  calls : Nat → Call
  world : σ

/-- One step of a caller or of the thread of a run. -/
inductive Act where
  /-- A start checks the slot. -/
  | start (caller : Nat) (sequence : Sequence) (options : RunOptions)
  /-- A start looks for one switch, with the slot unlocked. -/
  | look (caller : Nat)
  /-- A start checks the slot again, and fills it or, without a thread for the run, leaves it empty. -/
  | store (caller : Nat)
  | stop (caller : Nat)
  /-- A wait takes the run out of the slot. -/
  | take (caller : Nat)
  /-- A wait is over, since the thread is. -/
  | join (caller : Nat)
  /-- The thread of a run takes a step. -/
  | advance (run : Nat)

namespace Shared
variable {σ : Type}

/-- Nothing has run and nobody calls. -/
def new (world : σ) : Shared σ := ⟨.new, fun _ => .away, world⟩

/-- With a caller somewhere else. -/
def put (x : Shared σ) (k : Nat) (c : Call) : Shared σ :=
  { x with calls := fun j => if j = k then c else x.calls j }

/-- What a step comes to, if it can be taken. -/
def act (env : Surroundings σ) (x : Shared σ) : Act → Option (Shared σ)
  | .start k sequence options =>
    match x.calls k, x.runner.checkIdle with
    | .away, .ok () =>
      if sequence.steps.isEmpty then some x
      else some (x.put k (.looking sequence options sequence.requiredIds))
    | .away, .error _ => some x
    | _, _ => none
  | .look k =>
    match x.calls k with
    | .looking sequence options (id :: left) =>
      match env.sink (.read id .status) x.world with
      | (.ok _, world) => some { x.put k (.looking sequence options left) with world }
      | (.error _, world) => some { x.put k .away with world }
    | _ => none
  | .store k =>
    match x.calls k with
    | .looking sequence options [] =>
      let (_, runner, world) := x.runner.store env sequence options x.world
      some { x.put k .away with runner, world }
    | _ => none
  | .stop k =>
    match x.calls k, x.runner.stop with
    | .away, .ok runner => some { x with runner }
    | .away, .error _ => some x
    | _, _ => none
  | .take k =>
    match x.calls k, x.runner.take with
    | .away, .ok (i, runner) => some { x.put k (.joining i) with runner }
    | .away, .error _ => some x
    | _, _ => none
  | .join k =>
    match x.calls k with
    | .joining i => (x.runner.outcome? i).map fun _ => x.put k .away
    | _ => none
  | .advance i =>
    let (_, runner, world) := x.runner.advance env i x.world
    some { x with runner, world }

/-- The steps of all callers and threads, in the order in which they are taken. -/
def acts (env : Surroundings σ) (x : Shared σ) : List Act → Option (Shared σ)
  | [] => some x
  | a :: rest => (x.act env a).bind fun x => acts env x rest

/-- Run `i` goes on. -/
def GoesOn (x : Shared σ) (i : Nat) : Prop :=
  ∃ run : Run, x.runner.runs[i]? = some run ∧ run.isOver = false

/-- Caller `k` waits for run `i`. -/
def Joins (x : Shared σ) (k i : Nat) : Prop := x.calls k = .joining i

/-- The runner owns the run that goes on: there is one at most, no other can be started,
a stop reaches it, and it is known to be running. -/
structure Owned (x : Shared σ) : Prop where
  one : ∀ i j, x.GoesOn i → x.GoesOn j → i = j
  refused : ∀ i, x.GoesOn i → x.runner.checkIdle = .error .alreadyRunning ∧
    ∀ (env : Surroundings σ) sequence options,
      x.runner.store env sequence options x.world = (.error .alreadyRunning, x.runner, x.world)
  stopped : ∀ (i : Nat) (run : Run), x.runner.runs[i]? = some run → run.isOver = false →
    ∃ r, x.runner.stop = .ok r ∧ r.runs[i]? = some { run with stopAsked := true }
  running : ∀ i, x.GoesOn i → x.runner.isRunning = true

/-- What every step preserves: the slot and the callers that wait hold different runs,
and between them all those that go on. -/
structure Kept (x : Shared σ) : Prop where
  slot_lt : ∀ i, x.runner.slot = some i → i < x.runner.runs.length
  joins_lt : ∀ k i, x.Joins k i → i < x.runner.runs.length
  apart : ∀ k i, x.Joins k i → x.runner.slot ≠ some i
  alone : ∀ k l i, x.Joins k i → x.Joins l i → k = l
  held : ∀ i, x.GoesOn i → x.runner.slot = some i ∨ ∃ k, x.Joins k i

theorem kept_new (world : σ) : (new world).Kept where
  slot_lt _ h := by cases h
  joins_lt _ _ h := by cases h
  apart _ _ h := by cases h
  alone _ _ _ h := by cases h
  held _ h := by
    obtain ⟨run, hrun, -⟩ := h
    cases hrun

/-! ### Callers -/

section
variable (x : Shared σ) {k l : Nat} {c : Call} {i : Nat}

theorem joins_put_self : (x.put k (.joining i)).Joins k i := if_pos rfl

theorem joins_put_of_ne (h : l ≠ k) : (x.put k c).Joins l i ↔ x.Joins l i := by
  unfold Joins Shared.put
  dsimp only
  rw [if_neg h]

/-- Who waits once a caller has gone somewhere else waits there or has waited before. -/
theorem joins_put {x : Shared σ} (h : (x.put k c).Joins l i) :
    (l = k ∧ c = .joining i) ∨ (l ≠ k ∧ x.Joins l i) := by
  by_cases hl : l = k
  · subst hl
    exact .inl ⟨rfl, (if_pos rfl).symm.trans h⟩
  · exact .inr ⟨hl, (joins_put_of_ne x hl).mp h⟩

end

/-! ### The runner and its runs -/

/-- A run that goes on in the slot is all that the runner looks at. -/
theorem isRunning_of_slot {x : Shared σ} {i : Nat} (hslot : x.runner.slot = some i) (h : x.GoesOn i) :
    x.runner.isRunning = true := by
  obtain ⟨run, hrun, hover⟩ := h
  simp [Runner.isRunning, Runner.active?, hslot, hrun, hover]

/-- Nothing goes on in the slot of a runner that is idle. -/
theorem not_goesOn_of_idle {x : Shared σ} {i : Nat} (hidle : x.runner.isRunning = false)
    (hslot : x.runner.slot = some i) : ¬ x.GoesOn i := by
  rintro ⟨run, hrun, hover⟩
  cases hover.symm.trans (Runner.isOver_of_idle hidle hslot hrun)

theorem goesOn_of_isRunning {x : Shared σ} (h : x.runner.isRunning = true) :
    ∃ i, x.runner.slot = some i ∧ x.GoesOn i := by
  unfold Runner.isRunning Runner.active? at h
  cases hslot : x.runner.slot with
  | none => rw [hslot] at h; cases h
  | some i =>
    rw [hslot, Option.bind_some] at h
    cases hrun : x.runner.runs[i]? with
    | none => rw [hrun] at h; cases h
    | some run =>
      rw [hrun] at h
      exact ⟨i, rfl, run, hrun, by simpa using h⟩

/-- What leaves something behind has ended. -/
theorem not_goesOn_of_outcome? {x : Shared σ} {i : Nat} {o : Except RunError Summary}
    (h : x.runner.outcome? i = some o) : ¬ x.GoesOn i := by
  rintro ⟨run, hrun, hover⟩
  rw [Runner.outcome?, hrun, Option.bind_some] at h
  unfold Run.outcome? at h
  unfold Run.isOver at hover
  split at h
  next hstage => rw [hstage] at hover; cases hover
  next hstage => rw [hstage] at hover; cases hover
  all_goals cases h

/-! ### Steps -/

/-- A caller goes somewhere else, unless it still waits for a run that goes on. -/
theorem Kept.put {x : Shared σ} (h : x.Kept) {k : Nat} {c : Call} (hc : ∀ i, c ≠ .joining i)
    (hleft : ∀ i, x.Joins k i → ¬ x.GoesOn i) : (x.put k c).Kept := by
  have hjoins : ∀ {l i}, (x.put k c).Joins l i → x.Joins l i := by
    intro l i hl
    rcases joins_put hl with ⟨-, he⟩ | ⟨-, hold⟩
    · exact absurd he (hc i)
    · exact hold
  refine ⟨h.slot_lt, fun l i hl => h.joins_lt l i (hjoins hl), fun l i hl => h.apart l i (hjoins hl),
    fun l m i hl hm => h.alone l m i (hjoins hl) (hjoins hm), fun i hi => ?_⟩
  rcases h.held i hi with hslot | ⟨l, hl⟩
  · exact .inl hslot
  · have hne : l ≠ k := by
      rintro rfl
      exact hleft i hl hi
    exact .inr ⟨l, (joins_put_of_ne x hne).mpr hl⟩

/-- In particular, a caller that does not wait goes anywhere. -/
theorem Kept.move {x : Shared σ} (h : x.Kept) {k : Nat} {c : Call} (hfree : ∀ i, x.calls k ≠ .joining i)
    (hc : ∀ i, c ≠ .joining i) : (x.put k c).Kept :=
  h.put hc fun i hi => absurd hi (hfree i)

/-- The runs change, but none goes on that did not. -/
theorem Kept.withRuns {x : Shared σ} (h : x.Kept) {runner : Runner} {world : σ}
    (hslot : runner.slot = x.runner.slot) (hlength : runner.runs.length = x.runner.runs.length)
    (hon : ∀ i, { x with runner, world }.GoesOn i → x.GoesOn i) : { x with runner, world }.Kept where
  slot_lt i hi := by
    rw [hlength]
    exact h.slot_lt i (hslot ▸ hi)
  joins_lt k i hk := by
    rw [hlength]
    exact h.joins_lt k i hk
  apart k i hk hi := h.apart k i hk (hslot ▸ hi)
  alone := h.alone
  held i hi := by
    rw [hslot]
    exact h.held i (hon i hi)

/-- The surroundings do not matter. -/
theorem Kept.withWorld {x : Shared σ} (h : x.Kept) (world : σ) : { x with world }.Kept :=
  ⟨h.slot_lt, h.joins_lt, h.apart, h.alone, h.held⟩

/-- A new run takes the slot, from which nothing goes on. -/
theorem Kept.fill {x : Shared σ} (h : x.Kept) (hidle : x.runner.isRunning = false) (sequence : Sequence)
    (options : RunOptions) : { x with
      runner := ⟨x.runner.runs ++ [Run.accepted sequence options], some x.runner.runs.length⟩ }.Kept := by
  refine ⟨?_, ?_, ?_, h.alone, ?_⟩
  · intro i hi
    cases hi
    simp
  · intro k i hk
    have hlt := h.joins_lt k i hk
    simp only [List.length_append, List.length_singleton]
    omega
  · intro k i hk hi
    have hlt := h.joins_lt k i hk
    cases hi
    omega
  · rintro i ⟨run, hrun, hover⟩
    by_cases hlt : i < x.runner.runs.length
    · have hi : x.GoesOn i := ⟨run, by rwa [List.getElem?_append_left hlt] at hrun, hover⟩
      exact .inr ((h.held i hi).resolve_left fun hslot => not_goesOn_of_idle hidle hslot hi)
    · have hle : i < (x.runner.runs ++ [Run.accepted sequence options]).length :=
        (List.getElem?_eq_some_iff.mp hrun).1
      simp only [List.length_append, List.length_singleton] at hle
      exact .inl (congrArg some (by omega))

/-- The slot, from which nothing goes on, is left empty. -/
theorem Kept.vacate {x : Shared σ} (h : x.Kept) (hidle : x.runner.isRunning = false) :
    { x with runner := { x.runner with slot := none } }.Kept := by
  refine ⟨fun i hi => ?_, h.joins_lt, fun k i _ hi => ?_, h.alone, fun i hi => ?_⟩
  · cases hi
  · cases hi
  · exact .inr ((h.held i hi).resolve_left fun hslot => not_goesOn_of_idle hidle hslot hi)

/-- A start that checks the slot again fills it, leaves it empty or leaves it alone. -/
theorem Kept.store (env : Surroundings σ) {x : Shared σ} (h : x.Kept) (sequence : Sequence) (options : RunOptions) :
    { x with
      runner := (x.runner.store env sequence options x.world).2.1
      world := (x.runner.store env sequence options x.world).2.2 }.Kept := by
  have hstarts := Runner.starts_store env x.runner sequence options x.world
  generalize x.runner.store env sequence options x.world = stored at hstarts ⊢
  obtain ⟨result, runner, world⟩ := stored
  cases hstarts with
  | refused => exact h.withWorld world
  | lost hidle => exact (h.vacate hidle).withWorld world
  | accepted hidle => exact (h.fill hidle sequence options).withWorld world

/-- The caller that takes the run out of the slot waits for it, alone. -/
theorem Kept.take {x : Shared σ} (h : x.Kept) {k i : Nat} {runner : Runner} (haway : x.calls k = .away)
    (htake : x.runner.take = .ok (i, runner)) : { x.put k (.joining i) with runner }.Kept := by
  unfold Runner.take at htake
  split at htake
  next j hslot =>
    cases htake
    have hjoins : ∀ {l j}, ({ x.put k (.joining i) with runner := { x.runner with slot := none } } :
        Shared σ).Joins l j → (l = k ∧ j = i) ∨ (l ≠ k ∧ x.Joins l j) := by
      intro l j hl
      exact (joins_put hl).imp_left fun ⟨hlk, he⟩ => ⟨hlk, (Call.joining.inj he).symm⟩
    refine ⟨?_, ?_, ?_, ?_, ?_⟩
    · intro j hj
      cases hj
    · intro l j hl
      rcases hjoins hl with ⟨-, rfl⟩ | ⟨-, hold⟩
      · exact h.slot_lt _ hslot
      · exact h.joins_lt l j hold
    · intro l j _ hj
      cases hj
    · intro l m j hl hm
      rcases hjoins hl with ⟨hlk, hji⟩ | ⟨-, hold⟩ <;> rcases hjoins hm with ⟨hmk, hji'⟩ | ⟨-, hold'⟩
      · rw [hlk, hmk]
      · rw [hji] at hold'
        exact absurd hslot (h.apart m i hold')
      · rw [hji'] at hold
        exact absurd hslot (h.apart l i hold)
      · exact h.alone l m j hold hold'
    · intro j hj
      refine .inr ?_
      rcases h.held j hj with hheld | ⟨l, hl⟩
      · rw [hslot] at hheld
        cases hheld
        exact ⟨k, joins_put_self x⟩
      · have hne : l ≠ k := by
          rintro rfl
          exact Call.noConfusion (haway.symm.trans hl)
        exact ⟨l, (joins_put_of_ne x hne).mpr hl⟩
  · cases htake

/-- Asking a run to stop does not end it. -/
theorem Kept.stop {x : Shared σ} (h : x.Kept) {runner : Runner} (hstop : x.runner.stop = .ok runner) :
    { x with runner }.Kept := by
  unfold Runner.stop at hstop
  split at hstop
  next j hslot =>
    cases hstop
    refine h.withRuns rfl (List.length_modify ..) ?_
    rintro i ⟨run, hrun, hover⟩
    dsimp only at hrun
    rw [List.getElem?_modify] at hrun
    cases hold : x.runner.runs[i]? with
    | none => rw [hold] at hrun; cases hrun
    | some old =>
      rw [hold] at hrun
      refine ⟨old, hold, ?_⟩
      cases hrun
      split at hover <;> exact hover
  · cases hstop

/-- Threads end runs and begin none. -/
theorem Kept.advance (env : Surroundings σ) {x : Shared σ} (h : x.Kept) (i : Nat) :
    { x with
      runner := (x.runner.advance env i x.world).2.1
      world := (x.runner.advance env i x.world).2.2 }.Kept := by
  unfold Runner.advance
  cases hi : x.runner.runs[i]? with
  | none => exact h
  | some run =>
    refine h.withRuns rfl (List.length_set ..) ?_
    rintro j ⟨new, hnew, hover⟩
    dsimp only at hnew
    rw [List.getElem?_set] at hnew
    split at hnew
    next heq =>
      subst heq
      refine ⟨run, hi, Bool.eq_false_iff.mpr fun hrun => ?_⟩
      split at hnew
      · rw [Run.step_of_isOver hrun] at hnew
        cases hnew
        rw [hrun] at hover
        cases hover
      · cases hnew
    next => exact ⟨new, hnew, hover⟩

/-- **Every step keeps** what is to be kept. -/
theorem Kept.act {env : Surroundings σ} {x y : Shared σ} (h : x.Kept) {a : Act}
    (ha : x.act env a = some y) : y.Kept := by
  cases a with
  | start k sequence options =>
    simp only [Shared.act] at ha
    split at ha
    next hk _ =>
      split at ha
      · cases ha; exact h
      · cases ha; exact h.move (by simp [hk]) (by simp)
    next => cases ha; exact h
    next => cases ha
  | look k =>
    simp only [Shared.act] at ha
    split at ha
    next sequence options id left hk =>
      split at ha
      next => cases ha; exact (h.move (by simp [hk]) (by simp)).withWorld _
      next => cases ha; exact (h.move (by simp [hk]) (by simp)).withWorld _
    next => cases ha
  | store k =>
    simp only [Shared.act] at ha
    split at ha
    next sequence options hk =>
      have haway : (x.put k .away).Kept := h.move (by simp [hk]) (by simp)
      cases ha
      exact haway.store env sequence options
    next => cases ha
  | stop k =>
    simp only [Shared.act] at ha
    split at ha
    next runner _ hstop => cases ha; exact h.stop hstop
    next => cases ha; exact h
    next => cases ha
  | take k =>
    simp only [Shared.act] at ha
    split at ha
    next i runner hk htake => cases ha; exact h.take hk htake
    next => cases ha; exact h
    next => cases ha
  | join k =>
    simp only [Shared.act] at ha
    split at ha
    next i hk =>
      obtain ⟨o, ho, rfl⟩ := Option.map_eq_some_iff.mp ha
      refine h.put (by simp) fun j hj hon => ?_
      rw [Call.joining.inj (hj.symm.trans hk)] at hon
      exact not_goesOn_of_outcome? ho hon
    next => cases ha
  | advance i =>
    simp only [Shared.act] at ha
    cases ha
    exact h.advance env i

theorem Kept.acts {env : Surroundings σ} {x y : Shared σ} (h : x.Kept) {as : List Act}
    (has : x.acts env as = some y) : y.Kept := by
  induction as generalizing x with
  | nil => cases has; exact h
  | cons a rest ih =>
    obtain ⟨z, hz, hrest⟩ := Option.bind_eq_some_iff.mp has
    exact ih (h.act hz) hrest

/-! ### Ownership -/

/-- A run that goes on and is in the slot is owned in every way but one. -/
theorem owned_of_slot {x : Shared σ} (h : ∀ i, x.GoesOn i → x.runner.slot = some i) : x.Owned where
  one i j hi hj := Option.some.inj ((h i hi).symm.trans (h j hj))
  refused i hi := by
    have hrunning := isRunning_of_slot (h i hi) hi
    exact ⟨if_pos hrunning, fun _ _ _ => if_pos hrunning⟩
  stopped i run hrun hover := by
    refine ⟨{ x.runner with runs := x.runner.runs.modify i fun run => { run with stopAsked := true } },
      ?_, ?_⟩
    · simp [Runner.stop, h i ⟨run, hrun, hover⟩]
    · simp [hrun]
  running i hi := isRunning_of_slot (h i hi) hi

/-- **When the runner owns the run that goes on.** Whatever callers and threads do, in
whatever order, it does so exactly as long as no caller waits for a run that goes on. -/
theorem owned_iff_nobody_waits {env : Surroundings σ} {world : σ} {as : List Act} {x : Shared σ}
    (h : (new world).acts env as = some x) : x.Owned ↔ ∀ k i, x.Joins k i → ¬ x.GoesOn i := by
  have hkept : x.Kept := (kept_new world).acts h
  constructor
  · intro howned k i hk hi
    obtain ⟨j, hslot, hj⟩ := goesOn_of_isRunning (howned.running i hi)
    rw [howned.one j i hj hi] at hslot
    exact hkept.apart k i hk hslot
  · intro hfree
    refine owned_of_slot fun i hi => ?_
    rcases hkept.held i hi with hslot | ⟨k, hk⟩
    · exact hslot
    · exact absurd hi (hfree k i hk)

/-- Surroundings without switches. -/
def bare : Surroundings Unit where
  sink c s := (.error (.noResponse c.id), s)
  console := none
  crashes _ _ := false

/-- A run of one long delay, on which caller 0 waits while it goes on. -/
def waiting : List Act :=
  [.start 0 ⟨[.delay 3600000], .empty⟩ .standard, .store 0, .take 0, .advance 0, .advance 0]

/-- Waiting for a run disowns it: the run goes on, and yet nothing seems to run, it cannot
be stopped and another one can be started beside it. -/
theorem not_owned_while_waiting : ∃ x y, (new ()).acts bare waiting = some x ∧ x.GoesOn 0 ∧
    x.runner.isRunning = false ∧ x.runner.stop = .error .notStarted ∧ ¬ x.Owned ∧
    x.acts bare [.start 1 ⟨[.delay 3600000], .empty⟩ .standard, .store 1] = some y ∧
    y.GoesOn 0 ∧ y.GoesOn 1 := by
  refine ⟨_, _, rfl, ⟨_, rfl, rfl⟩, rfl, rfl, fun howned => ?_, rfl, ⟨_, rfl, rfl⟩, ⟨_, rfl, rfl⟩⟩
  exact Bool.noConfusion (howned.running 0 ⟨_, rfl, rfl⟩)

theorem owned_iff_nobody_waits_waiting : ∃ x, (new ()).acts bare waiting = some x ∧
    (x.Owned ↔ ∀ k i, x.Joins k i → ¬ x.GoesOn i) := by
  obtain ⟨x, hx⟩ : ∃ x, (new ()).acts bare waiting = some x := Option.isSome_iff_exists.mp rfl
  exact ⟨x, hx, owned_iff_nobody_waits hx⟩

end Shared

end SwitchBench
