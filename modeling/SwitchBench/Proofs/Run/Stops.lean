import SwitchBench.Proofs.Run.Cycles
import SwitchBench.Proofs.Run.Threads

/-! What a stop does to a run.

The thread of a run takes its steps, and at any time between them the run may be asked to stop
(`Run.moves`). The thread takes notice of that only in the wait after a tick (`Run.waits`).
Wherever the thread is, it has taken the first ticks of the run that is never stopped, each as it is
there (`Run.Place`). So a stop cuts a run short and changes nothing else (`Run.stop_cuts`). -/
namespace SwitchBench

/-! ### Where ticks lead -/

namespace Execution
variable {σ : Type} (env : Surroundings σ) {e : Execution} {st : Step} {s : σ} {m n : Nat}

/-- The next tick brings down its thread. -/
def Falls (e : Execution) (s : σ) : Prop :=
  e.status = .running ∧
    ∃ st c, e.sequence.steps[e.progress.next]? = some st ∧ e.command? st = some c ∧ env.crashes c s = true

/-- One tick more than `n`, if there is one. -/
theorem ticks_last (h : (e.ticks env n s).2.1.status = .running) : e.ticks env (n + 1) s =
    ((e.ticks env n s).1 ++ [((e.ticks env n s).2.1.tick env (e.ticks env n s).2.2).1],
      ((e.ticks env n s).2.1.tick env (e.ticks env n s).2.2).2) := by
  rw [ticks_add, ticks_succ env h]
  rfl

/-- Once a run is no longer running it stays as it is. -/
theorem ticks_of_le (h : (e.ticks env m s).2.1.status ≠ .running) (hmn : m ≤ n) :
    e.ticks env n s = e.ticks env m s := by
  rw [← Nat.add_sub_cancel' hmn, ticks_add, ticks_of_not_running env h, List.append_nil]

theorem running_of_le (hmn : m ≤ n) (h : (e.ticks env n s).2.1.status = .running) :
    (e.ticks env m s).2.1.status = .running :=
  Decidable.byContradiction fun hover => hover (ticks_of_le env hover hmn ▸ h)

/-- A tick faults and stops the run, or else it is counted and the next step is due. -/
theorem tick_cases (hrun : e.status = .running) (hst : e.sequence.steps[e.progress.next]? = some st) :
    (e.tick env s).2.1.status = .stopped .fault ∨
      (∀ m, (e.perform env st s).1 ≠ .fault m) ∧
        (e.tick env s).2.1 = ({ e with current := e.selected st }.count (e.perform env st s).1).advance.1 := by
  rw [tick_of_step env s hrun hst]
  dsimp only
  cases hv : (e.perform env st s).1 with
  | fault m =>
    have hfault := count_fault (e := { e with current := e.selected st }) hrun m
    left
    rw [advance_status (by rw [hfault]; exact fun h => RunStatus.noConfusion h), hfault]
  | done | wait _ | passed | failed _ => exact .inr ⟨fun _ h => Verdict.noConfusion h, rfl⟩

/-- A run that is running goes on, is completed or is stopped by the interlock. -/
theorem tick_status (hrun : e.status = .running) :
    (e.tick env s).2.1.status = .running ∨ (e.tick env s).2.1.status = .completed ∨
      (e.tick env s).2.1.status = .stopped .fault := by
  cases hst : e.sequence.steps[e.progress.next]? with
  | none => exact .inr (.inl (by rw [tick_of_no_step env s hrun hst]))
  | some st =>
    rcases tick_cases env (s := s) hrun hst with hfault | ⟨hv, htick⟩
    · exact .inr (.inr hfault)
    · have hcounted := (count_status (e := { e with current := e.selected st }) hv).trans hrun
      rw [htick, advance_eq]
      split
      · exact .inl hcounted
      · dsimp only
        split
        · exact .inr (.inl rfl)
        · exact .inl hcounted

theorem ticks_status (hrun : e.status = .running) :
    (e.ticks env n s).2.1.status = .running ∨ (e.ticks env n s).2.1.status = .completed ∨
      (e.ticks env n s).2.1.status = .stopped .fault := by
  induction n with
  | zero => exact .inl hrun
  | succ n ih =>
    by_cases hlast : (e.ticks env n s).2.1.status = .running
    · rw [ticks_last env hlast]
      exact tick_status env hlast
    · rwa [ticks_of_le env hlast (Nat.le_succ n)]

namespace Stands
variable {q : Sequence} {interval : UInt64} {k : Nat}

/-- A tick leads on, unless the interlock stops the run. -/
theorem tick_of_running (h : Stands q interval k e) (hsteps : q.steps ≠ []) (hk : k < q.duration)
    (hrun : (e.tick env s).2.1.status = .running) : Stands q interval (k + 1) (e.tick env s).2.1 := by
  obtain ⟨st, hst⟩ : ∃ st, q.steps[k % q.steps.length]? = some st :=
    ⟨_, List.getElem?_eq_getElem (Nat.mod_lt k (List.length_pos_iff.mpr hsteps))⟩
  rcases tick_cases env (s := s) (h.running hk) (by rw [h.sequence, h.next, hst]) with hfault | ⟨hv, htick⟩
  · rw [hrun] at hfault
    cases hfault
  · rw [htick]
    exact ((h.count (e.selected st) hv).advance hsteps hk).1

theorem ticks_of_running (h : Stands q interval 0 e) (hsteps : q.steps ≠ []) (hn : n ≤ q.duration)
    (hrun : (e.ticks env n s).2.1.status = .running) : Stands q interval n (e.ticks env n s).2.1 := by
  induction n with
  | zero => exact h
  | succ n ih =>
    by_cases hlast : (e.ticks env n s).2.1.status = .running
    · rw [ticks_last env hlast] at hrun ⊢
      exact (ih (Nat.le_of_succ_le hn) hlast).tick_of_running env hsteps hn hrun
    · rw [ticks_of_le env hlast (Nat.le_succ n)] at hrun
      exact absurd hrun hlast

/-- **A run that is to be completed is over in time**, whatever the sink and the console answer. -/
theorem not_running_ticks (h : Stands q interval 0 e) (hsteps : q.steps ≠ []) (hn : q.duration ≤ n) :
    (e.ticks env n s).2.1.status ≠ .running := by
  have hover : (e.ticks env q.duration s).2.1.status ≠ .running := fun hrun =>
    (h.ticks_of_running env hsteps (Nat.le_refl _) hrun).not_running (Nat.le_refl _) hrun
  rwa [ticks_of_le env hover hn]

end Stands

end Execution

/-! ### The moves of a run -/

/-- What happens to a run. -/
inductive Move where
  /-- Its thread takes a step. -/
  | step
  /-- It is asked to stop. -/
  | ask
deriving DecidableEq

namespace Run
variable {σ : Type} (env : Surroundings σ)

/-- A run that was asked to stop. -/
def asked (r : Run) : Run := { r with stopAsked := true }

def move (r : Run) (s : σ) : Move → List Event × Run × σ
  | .step => r.step env s
  | .ask => ([], r.asked, s)

/-- One move after another, and what is told meanwhile. -/
def moves (r : Run) (s : σ) : List Move → List Event × Run × σ
  | [] => ([], r, s)
  | m :: rest =>
    let (events, r, s) := r.move env s m
    let (more, r, s) := moves r s rest
    (events ++ more, r, s)

/-- Whether the wait that ends with a move, if one does, is cut short by a stop. -/
def cutShort? (r : Run) : Move → Option Bool
  | .step => match r.stage with
    | .waiting _ => some r.stopAsked
    | _ => none
  | .ask => none

/-- Of the waits after ticks, in their order, whether they were cut short by a stop. -/
def waits (r : Run) (s : σ) : List Move → List Bool
  | [] => []
  | m :: rest => (r.cutShort? m).toList ++ waits (r.move env s m).2.1 (r.move env s m).2.2 rest

/-- The thread of a run that is due falls, -/
theorem step_of_falls {r : Run} {s : σ} (hdue : r.stage = .due) (h : r.execution.Falls env s) :
    r.step env s = ([], { r with stage := .crashed }, s) := by
  obtain ⟨-, st, c, hst, hc, hcrashes⟩ := h
  simp [step, hdue, command?, hst, hc, hcrashes]

/-- or else takes its tick. -/
theorem step_of_stands {r : Run} {s : σ} (hdue : r.stage = .due) (hrun : r.execution.status = .running)
    (h : ¬ r.execution.Falls env s) : r.step env s =
      ((r.execution.tick env s).1.events,
        { r with
          execution := (r.execution.tick env s).2.1
          stage :=
            if (r.execution.tick env s).2.1.status = .running then .waiting (r.execution.tick env s).1.wait
            else .closing },
        (r.execution.tick env s).2.2) := by
  have hnone : (r.command?.map (env.crashes · s)).getD false = false := by
    rw [← Bool.not_eq_true]
    refine fun hcrashes => h ⟨hrun, ?_⟩
    unfold command? at hcrashes
    cases hst : r.execution.sequence.steps[r.execution.progress.next]? with
    | none => simp [hst] at hcrashes
    | some st => cases hc : r.execution.command? st <;> simp_all
  unfold step
  simp only [hdue]
  rw [if_neg (by simp [hnone])]

theorem stopAsked_step (r : Run) (s : σ) : (r.step env s).2.1.stopAsked = r.stopAsked := by
  unfold step
  split <;> first | rfl | (split <;> rfl)

/-- A run that nobody asks to stop is not asked to. -/
theorem stopAsked_moves {r : Run} {s : σ} {ms : List Move} (h : .ask ∉ ms) :
    (r.moves env s ms).2.1.stopAsked = r.stopAsked := by
  induction ms generalizing r s with
  | nil => rfl
  | cons m rest ih =>
    cases m with
    | ask => exact absurd (List.mem_cons_self ..) h
    | step =>
      rw [moves, ih fun hm => h (List.mem_cons_of_mem _ hm)]
      exact stopAsked_step env r s

end Run

/-! ### The run that is never stopped -/

/-- A run that was accepted, and what it is to act on. -/
structure Course (σ : Type) where
  env : Surroundings σ
  sequence : Sequence
  options : RunOptions
  world : σ

namespace Course
variable {σ : Type} (x : Course σ)

/-- The run, before its thread has begun. -/
def run : Run := .accepted x.sequence x.options

/-- Its first `n` ticks if it is never stopped, with the execution and the world after them. -/
def ticks (n : Nat) : List Tick × Execution × σ := x.run.execution.start.ticks x.env n x.world

def execution (n : Nat) : Execution := (x.ticks n).2.1

def worldAfter (n : Nat) : σ := (x.ticks n).2.2

/-- What is told of the run up to the end of these ticks. -/
def told (n : Nat) : List Event :=
  .runStarted x.sequence.steps.length x.sequence.cycles x.options.untilStopped ::
    (x.ticks n).1.flatMap (·.events)

/-- Tick `n`, from 0, brings down its thread. -/
def Falls (n : Nat) : Prop := (x.execution n).Falls x.env (x.worldAfter n)

/-- None of the first `n` ticks brings down its thread. -/
def Firm (n : Nat) : Prop := ∀ j < n, ¬ x.Falls j

/-- How the ticks come to an end: after tick `j` the run is no longer running, or is stopped in the wait. -/
def Ends (j : Nat) (asked : Bool) (e : Execution) (waits : List Bool) : Prop :=
  ((x.execution (j + 1)).status ≠ .running ∧ e = x.execution (j + 1) ∧ waits = .replicate j false) ∨
    ((x.execution (j + 1)).status = .running ∧ asked = true ∧ e = (x.execution (j + 1)).stop .manual ∧
      waits = .replicate j false ++ [true])

/-- Where a run is: the run, what was told of it, its waits, how many steps its thread has taken, and
the world, all in terms of the run that is never stopped. -/
inductive Place : Run → List Event → List Bool → Nat → σ → Prop
  | fresh (asked : Bool) : Place ⟨x.run.execution, .fresh, asked⟩ [] [] 0 x.world
  | due (asked : Bool) {j : Nat} (hrun : (x.execution j).status = .running) (hfirm : x.Firm j) :
    Place ⟨x.execution j, .due, asked⟩ (x.told j) (.replicate j false) (2 * j + 1) (x.worldAfter j)
  | waiting (asked : Bool) (ms : UInt64) {j : Nat} (hrun : (x.execution (j + 1)).status = .running)
    (hfirm : x.Firm (j + 1)) :
    Place ⟨x.execution (j + 1), .waiting ms, asked⟩ (x.told (j + 1)) (.replicate j false) (2 * j + 2)
      (x.worldAfter (j + 1))
  | closing {asked : Bool} {j c : Nat} {e : Execution} {waits : List Bool}
    (hrun : (x.execution j).status = .running) (hfirm : x.Firm (j + 1)) (hends : x.Ends j asked e waits)
    (hc : c ≤ 2 * j + 3) : Place ⟨e, .closing, asked⟩ (x.told (j + 1)) waits c (x.worldAfter (j + 1))
  | ended {asked : Bool} {j c : Nat} {e : Execution} {waits : List Bool}
    (hrun : (x.execution j).status = .running) (hfirm : x.Firm (j + 1)) (hends : x.Ends j asked e waits) :
    Place ⟨e, .over ⟨e.status, e.progress⟩, asked⟩
      (x.told (j + 1) ++ [.runFinished ⟨e.status, e.progress⟩]) waits c (x.worldAfter (j + 1))
  | crashed (asked : Bool) {j c : Nat} (hfirm : x.Firm j) (hfalls : x.Falls j) :
    Place ⟨x.execution j, .crashed, asked⟩ (x.told j) (.replicate j false) c (x.worldAfter j)

section
variable {x} {n : Nat}

theorem running_zero (hsteps : x.sequence.steps ≠ []) : (x.execution 0).status = .running :=
  if_neg (by rw [List.isEmpty_iff]; exact hsteps)

theorem status_execution (hsteps : x.sequence.steps ≠ []) (n : Nat) : (x.execution n).status = .running ∨
    (x.execution n).status = .completed ∨ (x.execution n).status = .stopped .fault :=
  Execution.ticks_status x.env (running_zero hsteps)

theorem ticks_succ (h : (x.execution n).status = .running) : x.ticks (n + 1) =
    ((x.ticks n).1 ++ [((x.execution n).tick x.env (x.worldAfter n)).1],
      ((x.execution n).tick x.env (x.worldAfter n)).2) := Execution.ticks_last x.env h

theorem told_succ (h : (x.execution n).status = .running) :
    x.told (n + 1) = x.told n ++ ((x.execution n).tick x.env (x.worldAfter n)).1.events := by
  unfold told
  rw [ticks_succ h, List.flatMap_append, List.flatMap_singleton]
  rfl

theorem Ends.asked {j : Nat} {asked : Bool} {e : Execution} {waits : List Bool} (h : x.Ends j asked e waits) :
    x.Ends j true e waits :=
  h.imp_right fun ⟨hrun, _, rest⟩ => ⟨hrun, rfl, rest⟩

/-- An ask leaves a run in its place, -/
theorem Place.asked {r : Run} {events : List Event} {waits : List Bool} {c : Nat} {s : σ}
    (h : x.Place r events waits c s) : x.Place r.asked events waits c s := by
  cases h with
  | fresh => exact .fresh true
  | due _ hrun hfirm => exact .due true hrun hfirm
  | waiting _ ms hrun hfirm => exact .waiting true ms hrun hfirm
  | closing hrun hfirm hends hc => exact .closing hrun hfirm hends.asked hc
  | ended hrun hfirm hends => exact .ended hrun hfirm hends.asked
  | crashed _ hfirm hfalls => exact .crashed true hfirm hfalls

/-- and a step of its thread leads from place to place. -/
theorem Place.step (hsteps : x.sequence.steps ≠ []) {r : Run} {events : List Event} {waits : List Bool} {c : Nat}
    {s : σ} (h : x.Place r events waits c s) :
    x.Place (r.step x.env s).2.1 (events ++ (r.step x.env s).1) (waits ++ (r.cutShort? .step).toList) (c + 1)
      (r.step x.env s).2.2 := by
  cases h with
  | fresh asked =>
    have hrun : (x.execution 0).status = .running := running_zero hsteps
    rw [Run.step_of_fresh (r := ⟨x.run.execution, .fresh, asked⟩) rfl hrun]
    exact .due asked hrun fun _ h => absurd h (Nat.not_lt_zero _)
  | @due asked j hrun hfirm =>
    rw [show Run.cutShort? _ .step = none from rfl, Option.toList_none, List.append_nil]
    by_cases hfalls : x.Falls j
    · rw [Run.step_of_falls (r := ⟨x.execution j, .due, asked⟩) x.env rfl hfalls, List.append_nil]
      exact .crashed asked hfirm hfalls
    · have hfirm' : x.Firm (j + 1) := fun i hi =>
        (Nat.lt_succ_iff_lt_or_eq.mp hi).elim (hfirm i) fun he => he ▸ hfalls
      have htick : ((x.execution j).tick x.env (x.worldAfter j)).2 = (x.execution (j + 1), x.worldAfter (j + 1)) :=
        (congrArg Prod.snd (ticks_succ hrun)).symm
      rw [Run.step_of_stands (r := ⟨x.execution j, .due, asked⟩) x.env rfl hrun hfalls]
      simp only [htick, ← told_succ hrun]
      by_cases hnext : (x.execution (j + 1)).status = .running
      · rw [if_pos hnext]
        exact .waiting asked _ hnext hfirm'
      · rw [if_neg hnext]
        exact .closing hrun hfirm' (.inl ⟨hnext, rfl, rfl⟩) (by omega)
  | @waiting asked ms j hrun hfirm =>
    have hbefore : (x.execution j).status = .running := Execution.running_of_le x.env (Nat.le_succ j) hrun
    rw [show (Run.step x.env ⟨x.execution (j + 1), .waiting ms, asked⟩ (x.worldAfter (j + 1))).1 = [] by
      unfold Run.step; dsimp only; split <;> rfl, List.append_nil]
    cases asked with
    | false =>
      rw [show List.replicate j false ++ (Run.cutShort? _ .step).toList = List.replicate (j + 1) false from
        List.replicate_succ'.symm]
      exact .due false hrun hfirm
    | true => exact .closing hbefore hfirm (.inr ⟨hrun, rfl, rfl, rfl⟩) (Nat.le_refl _)
  | closing hrun hfirm hends hc =>
    rw [show Run.cutShort? _ .step = none from rfl, Option.toList_none, List.append_nil]
    exact .ended hrun hfirm hends
  | ended hrun hfirm hends =>
    simp only [Run.step, Run.cutShort?, Option.toList_none, List.append_nil]
    exact .ended hrun hfirm hends
  | crashed asked hfirm hfalls =>
    simp only [Run.step, Run.cutShort?, Option.toList_none, List.append_nil]
    exact .crashed asked hfirm hfalls

/-- **Move after move** a run has its place in terms of the run that is never stopped. -/
theorem Place.moves (hsteps : x.sequence.steps ≠ []) {r : Run} {events : List Event} {waits : List Bool} {c : Nat}
    {s : σ} (h : x.Place r events waits c s) (ms : List Move) :
    x.Place (r.moves x.env s ms).2.1 (events ++ (r.moves x.env s ms).1) (waits ++ r.waits x.env s ms)
      (c + ms.count .step) (r.moves x.env s ms).2.2 := by
  induction ms generalizing r events waits c s with
  | nil => simpa [Run.moves, Run.waits] using h
  | cons m rest ih =>
    rw [Run.moves, Run.waits, ← List.append_assoc, ← List.append_assoc]
    cases m with
    | step =>
      rw [List.count_cons_self, Nat.add_comm _ 1, ← Nat.add_assoc]
      exact ih (h.step hsteps)
    | ask =>
      rw [List.count_cons_of_ne (by decide)]
      simpa [Run.move, Run.cutShort?] using ih h.asked

/-! ### Where a stop cuts a run short -/

variable (x) in
/-- What a thread leaves behind that has ended after the first `n` ticks of the run that is never
stopped, or after all of them if these are fewer. -/
structure Concludes (n : Nat) (left : List Event × Run × σ) (summary : Summary) : Prop where
  firm : x.Firm n
  stage : left.2.1.stage = .over summary
  told : left.1 = x.told n ++ [.runFinished summary]
  world : left.2.2 = x.worldAfter n
  progress : summary.progress = (x.execution n).progress
  stopped_iff : summary.status = .stopped .manual ↔ (x.execution n).status = .running
  own : (x.execution n).status ≠ .running →
    summary.status = (x.execution n).status ∧ ∀ m, n ≤ m → x.ticks m = x.ticks n

variable (x) in
/-- What a thread leaves behind that falls in tick `n` of the run that is never stopped. -/
structure BreaksOff (n : Nat) (left : List Event × Run × σ) : Prop where
  firm : x.Firm n
  falls : x.Falls n
  crashed : left.2.1.stage = .crashed
  told : left.1 = x.told n
  world : left.2.2 = x.worldAfter n

/-- The end of the ticks is that of the thread. -/
theorem Ends.concludes (hsteps : x.sequence.steps ≠ []) {j : Nat} {asked : Bool} {e : Execution}
    {waits : List Bool} (h : x.Ends j asked e waits) (hfirm : x.Firm (j + 1)) :
    x.Concludes (j + 1) (x.told (j + 1) ++ [.runFinished ⟨e.status, e.progress⟩],
      ⟨e, .over ⟨e.status, e.progress⟩, asked⟩, x.worldAfter (j + 1)) ⟨e.status, e.progress⟩ := by
  rcases h with ⟨hover, rfl, -⟩ | ⟨hrun, -, rfl, -⟩
  · have hmanual : (x.execution (j + 1)).status ≠ .stopped .manual := by
      rcases x.status_execution hsteps (j + 1) with h | h | h <;> simp [h]
    exact ⟨hfirm, rfl, rfl, rfl, rfl, iff_of_false hmanual hover,
      fun _ => ⟨rfl, fun m hm => Execution.ticks_of_le x.env hover hm⟩⟩
  · have hstopped : ((x.execution (j + 1)).stop .manual).status = .stopped .manual := by
      rw [Execution.stop, if_pos hrun]
    exact ⟨hfirm, rfl, rfl, rfl, Execution.stop_progress .., iff_of_true hstopped hrun,
      fun hover => absurd hrun hover⟩

/-- A run that is over after some ticks is over after more. -/
theorem Concludes.of_le {m : Nat} {left : List Event × Run × σ} {summary : Summary}
    (h : x.Concludes n left summary) (hover : (x.execution n).status ≠ .running) (hnm : n ≤ m) :
    x.Concludes m left summary := by
  obtain ⟨hsame, hticks⟩ := h.own hover
  have heq := hticks m hnm
  have hexecution : x.execution m = x.execution n := by rw [execution, execution, heq]
  refine ⟨fun j hj => ?_, h.stage, ?_, ?_, ?_, ?_, fun _ => ⟨?_, fun k hk => ?_⟩⟩
  · rcases Nat.lt_or_ge j n with hlt | hge
    · exact h.firm j hlt
    · intro hfalls
      have hj : x.execution j = x.execution n := by rw [execution, execution, hticks j hge]
      exact hover (hj ▸ hfalls.1)
  · rw [h.told, Course.told, Course.told, heq]
  · rw [h.world, worldAfter, worldAfter, heq]
  · rw [h.progress, hexecution]
  · rw [h.stopped_iff, hexecution]
  · rw [hsame, hexecution]
  · rw [heq, hticks k (Nat.le_trans hnm hk)]

end

end Course

/-- The first wait that is cut short is wait `k`, from 0, unless there are fewer waits. -/
def CutAt (k : Nat) (waits : List Bool) : Prop := (∀ j < k, waits[j]? ≠ some true) ∧ waits[k]? ≠ some false

instance (k : Nat) (waits : List Bool) : Decidable (CutAt k waits) := inferInstanceAs (Decidable (_ ∧ _))

theorem CutAt.le {k j : Nat} {rest : List Bool} (h : CutAt k (.replicate j false ++ rest)) : j ≤ k := by
  refine Nat.le_of_not_lt fun hlt => h.2 ?_
  rw [List.getElem?_append_left (by simpa using hlt), List.getElem?_replicate, if_pos hlt]

theorem CutAt.eq {k j : Nat} (h : CutAt k (.replicate j false ++ [true])) : j = k := by
  refine Nat.le_antisymm h.le (Nat.le_of_not_lt fun hlt => h.1 j hlt ?_)
  rw [List.getElem?_append_right (by simp)]
  simp

namespace Course
variable {σ : Type} {x : Course σ} {left : List Event × Run × σ} {waits : List Bool} {c k : Nat}

/-- **A thread whose first wait to be cut short is wait `k`** has taken the first `k + 1` ticks of the
run that is never stopped once it has taken enough steps, unless it fell in one of them. -/
theorem Place.cut (hsteps : x.sequence.steps ≠ []) (h : x.Place left.2.1 left.1 waits c left.2.2)
    (hcut : CutAt k waits) (hc : 2 * k + 4 ≤ c) :
    (∃ summary, x.Concludes (k + 1) left summary) ∨ ∃ j ≤ k, x.BreaksOff j left := by
  obtain ⟨events, r, s⟩ := left
  dsimp only at h
  have hle : ∀ j, waits = .replicate j false → j ≤ k := fun j he =>
    @CutAt.le k j [] (by rwa [List.append_nil, ← he])
  cases h with
  | fresh => omega
  | due | waiting =>
    have := hle _ rfl
    omega
  | @closing _ j _ _ _ _ _ hends hc' =>
    have : j ≤ k := by
      rcases hends with ⟨-, -, rfl⟩ | ⟨-, -, -, rfl⟩
      · exact hle j rfl
      · exact hcut.le
    omega
  | @ended _ j _ _ _ hrun hfirm hends =>
    have hconcludes := hends.concludes hsteps hfirm
    rcases hends with ⟨hover, -, rfl⟩ | ⟨-, -, -, rfl⟩
    · exact .inl ⟨_, hconcludes.of_le hover (Nat.succ_le_succ (hle j rfl))⟩
    · rw [← hcut.eq]
      exact .inl ⟨_, hconcludes⟩
  | crashed _ hfirm hfalls => exact .inr ⟨_, hle _ rfl, hfirm, hfalls, rfl, rfl, rfl⟩

/-- **A thread of a run that nobody asks to stop** is over in time, unless it falls. -/
theorem Place.uncut (hsteps : x.sequence.steps ≠ []) (h : x.Place left.2.1 left.1 waits c left.2.2)
    (hasked : left.2.1.stopAsked = false) (hcycles : 0 < x.sequence.cycles.toNat)
    (hbounded : x.options.untilStopped = false) (hc : 2 * x.sequence.duration + 2 ≤ c) :
    (∃ n summary, n ≤ x.sequence.duration ∧ x.Concludes n left summary ∧
        (x.execution n).status ≠ .running) ∨
      ∃ j < x.sequence.duration, x.BreaksOff j left := by
  obtain ⟨events, r, s⟩ := left
  dsimp only at h hasked
  have hbegun : Execution.Stands x.sequence x.options.interval 0 x.run.execution.start :=
    .begun (e := x.run.execution) hbounded hsteps hcycles
  have hlt : ∀ j, (x.execution j).status = .running → j < x.sequence.duration := fun j hrun =>
    Nat.lt_of_not_le fun hge => hbegun.not_running_ticks x.env hsteps hge hrun
  cases h with
  | fresh => omega
  | due _ hrun | waiting _ _ hrun =>
    have := hlt _ hrun
    omega
  | closing hrun _ _ hc' =>
    have := hlt _ hrun
    omega
  | ended hrun hfirm hends =>
    have hconcludes := hends.concludes hsteps hfirm
    rcases hends with ⟨hover, -, -⟩ | ⟨-, rfl, -⟩
    · exact .inl ⟨_, _, hlt _ hrun, hconcludes, hover⟩
    · cases hasked
  | crashed _ hfirm hfalls => exact .inr ⟨_, hlt _ hfalls.1, hfirm, hfalls, rfl, rfl, rfl⟩

/-- A summary is not that of a run that has not begun or goes on. -/
theorem Place.status (hsteps : x.sequence.steps ≠ []) (h : x.Place left.2.1 left.1 waits c left.2.2)
    {summary : Summary} (hover : left.2.1.stage = .over summary) :
    summary.status ≠ .idle ∧ summary.status ≠ .running := by
  obtain ⟨events, r, s⟩ := left
  dsimp only at h hover
  cases h with
  | @ended _ j _ _ _ hrun hfirm hends =>
    cases hover
    rcases hends with ⟨hover, rfl, -⟩ | ⟨hrun', -, rfl, -⟩
    · rcases x.status_execution hsteps (j + 1) with h | h | h <;> simp_all
    · simp [Execution.stop, hrun']
  | _ => cases hover

end Course

/-- **A stop cuts a run of a script short.** Let a script have steps, and its run be asked to stop at
whatever times. If the first wait that is cut short is wait `k`, from 0, or there are no more than `k`
of them, then the thread takes the first `k + 1` ticks of the run that is never stopped, or all of
them if these are fewer, in a world that is as it is there, and sums them up: as stopped if that run
is still running then, and otherwise as it ended (`Course.Concludes`). If nobody asks it to stop and
it is not to go on until it is stopped, it takes no more ticks than its cycles have steps. Only a sink
that brings down the thread keeps it from that (`Course.BreaksOff`). No summary is that of a run that
is idle or running. -/
theorem Course.stop_cuts {text : List Char} {σ : Type} {x : Course σ}
    (hscript : x.sequence = (Reading.ofText text).sequence) (hsteps : x.sequence.steps ≠ []) (ms : List Move) :
    let left := x.run.moves x.env x.world ms
    let waits := x.run.waits x.env x.world ms
    let total := x.sequence.cycles.toNat * x.sequence.steps.length
    (∀ k, CutAt k waits → 2 * k + 4 ≤ ms.count .step →
      (∃ summary, x.Concludes (k + 1) left summary) ∨ ∃ j ≤ k, x.BreaksOff j left) ∧
    (.ask ∉ ms → x.options.untilStopped = false → 2 * total + 2 ≤ ms.count .step →
      (∃ n summary, n ≤ total ∧ x.Concludes n left summary ∧ (x.execution n).status ≠ .running) ∨
        ∃ j < total, x.BreaksOff j left) ∧
    ∀ summary, left.2.1.stage = .over summary → summary.status ≠ .idle ∧ summary.status ≠ .running := by
  intro left waits total
  have hcycles : 0 < x.sequence.cycles.toNat := hscript ▸ (Reading.ofText_wellFormed text).cycles_pos
  have hplace : x.Place left.2.1 left.1 waits (ms.count .step) left.2.2 := by
    have hbegun : x.Place x.run [] [] 0 x.world := .fresh false
    simpa using hbegun.moves hsteps ms
  exact ⟨fun k hcut hc => hplace.cut hsteps hcut hc,
    fun hask hbounded hc => hplace.uncut hsteps (Run.stopAsked_moves x.env hask) hcycles hbounded hc,
    fun summary hover => hplace.status hsteps hover⟩

/-- A run of four ticks is asked to stop in the wait after the second one. -/
theorem Course.stop_cuts_onTwice :
    let x : Course Unit := ⟨.silent, (Reading.ofText onTwice).sequence, .standard, ()⟩
    let left := x.run.moves x.env x.world
      [.step, .step, .step, .step, .ask, .step, .step]
    ∃ summary, x.Concludes 2 left summary ∧ summary.status = .stopped .manual := by
  intro x left
  have hsteps : x.sequence.steps ≠ [] := by decide
  obtain ⟨hcut, -, -⟩ := stop_cuts rfl hsteps [.step, .step, .step, .step, .ask, .step, .step]
  rcases hcut 1 (by decide) (by decide) with ⟨summary, h⟩ | ⟨j, -, h⟩
  · exact ⟨summary, h, h.stopped_iff.mpr (by decide)⟩
  · obtain ⟨-, _, _, _, _, hcrashes⟩ := h.falls
    cases hcrashes

end SwitchBench
