import Mathlib.Algebra.Ring.Nat
import SwitchBench.Proofs.Script.Lines
import SwitchBench.Script.Safety

/-! What the rules of safe switching say of two ports in a row.

The activity on a switch is cut at its ports. What stands in it between two of them is
made of the delays among the steps between, run together, so the steps last as long as
it at least (`activity_append_port`). The rules then say of two ports in a row that one
is off or they are equal and that a second passes between them, unless the two are all
the activity there is (`broken?_between`). -/
namespace SwitchBench

namespace Step

/-- Whether a switch is addressed after a step; `own` tells its aliases. -/
def addresses (own : String → Bool) (mine : Bool) : Step → Bool
  | .select label => own label
  | _ => mine

/-- How long a step lasts by itself. -/
def pause : Step → Nat
  | .delay ms => ms.toNat
  | _ => 0

/-- No step sets the port of a switch that is addressed. -/
def Untouched (own : String → Bool) : Bool → List Step → Prop
  | _, [] => True
  | mine, st :: rest => (∀ n, st = .port n → mine = false) ∧ Untouched own (st.addresses own mine) rest

end Step

namespace Safety

open Step (Untouched)

/-- How long an activity lasts by itself. -/
def Activity.pause : Activity → Nat
  | delay ms => ms
  | port _ => 0

/-- The activity on a switch in what follows. Up to the next selection it belongs to the
switch if it is `mine`. -/
def activity (own : String → Bool) (mine : Bool) (rs : List Activity × List Run) : List Activity :=
  (if mine then rs.1 else []) ++ (rs.2.filter fun r => own r.label).flatMap (·.activity)

variable {own : String → Bool}

/-! ### One step more -/

theorem activity_select (mine : Bool) (label : String) (rest : List Step) :
    activity own mine (runs (.select label :: rest)) = activity own (own label) (runs rest) := by
  cases h : own label <;> simp [activity, runs, h]

theorem activity_port (mine : Bool) (n : UInt8) (rest : List Step) :
    activity own mine (runs (.port n :: rest)) =
      (if mine then [.port n] else []) ++ activity own mine (runs rest) := by
  cases mine <;> simp [activity, runs, Activity.before]

/-- A delay goes in front or into the delay that stands there. -/
theorem activity_delay (ms : UInt64) (rest : List Step) :
    activity own true (runs (.delay ms :: rest)) = .delay ms.toNat :: activity own true (runs rest) ∨
      ∃ x more, activity own true (runs rest) = .delay x :: more ∧
        activity own true (runs (.delay ms :: rest)) =
          .delay (min (ms.toNat + x) longestDelay) :: more := by
  cases hr : (runs rest).1 with
  | nil => exact .inl (by simp [activity, runs, Activity.before, hr])
  | cons a more =>
    cases a with
    | port n => exact .inl (by simp [activity, runs, Activity.before, hr])
    | delay x =>
      refine .inr ⟨x, more ++ ((runs rest).2.filter fun r => own r.label).flatMap (·.activity), ?_, ?_⟩
      · simp [activity, hr]
      · simp [activity, runs, Activity.before, hr]

theorem activity_delay_other (ms : UInt64) (rest : List Step) :
    activity own false (runs (.delay ms :: rest)) = activity own false (runs rest) := by
  simp [activity, runs]

/-- Steps of other kinds do not matter. -/
theorem activity_other {st : Step} (h : st.isSwitching = false) (mine : Bool) (rest : List Step) :
    activity own mine (runs (st :: rest)) = activity own mine (runs rest) := by
  cases st <;> first | rfl | cases h

/-! ### Up to a port -/

/-- **Up to a port of the switch** the activity on it is cut off at that port. Where no
other port of the switch comes before, it consists of delays, for which the steps leave
the time. -/
theorem activity_append_port (n : UInt8) (rest front : List Step) {mine : Bool}
    (h : front.foldl (Step.addresses own) mine = true) :
    ∃ before, activity own mine (runs (front ++ .port n :: rest)) =
        before ++ .port n :: activity own true (runs rest) ∧
      (Untouched own mine front → (∀ a ∈ before, a.isDelay = true) ∧
        (before.map Activity.pause).sum ≤ (front.map Step.pause).sum) := by
  induction front generalizing mine with
  | nil =>
    have hmine : mine = true := h
    refine ⟨[], ?_, fun _ => ⟨by simp, by simp⟩⟩
    rw [List.nil_append, activity_port, hmine]
    rfl
  | cons st front ih =>
    rw [List.foldl_cons] at h
    obtain ⟨before, hbefore, hdelays⟩ := ih h
    have hsame : (∀ n, st ≠ .port n) → (∀ ms, st ≠ .delay ms) →
        activity own mine (runs (st :: (front ++ .port n :: rest))) =
          activity own (st.addresses own mine) (runs (front ++ .port n :: rest)) := by
      intro hport hdelay
      cases st with
      | select label => exact activity_select mine label _
      | port n => exact absurd rfl (hport n)
      | delay ms => exact absurd rfl (hdelay ms)
      | speed _ | read _ _ | cycles _ | serial _ _ | finish => exact activity_other rfl mine _
    rw [List.cons_append, List.map_cons, List.sum_cons]
    cases st with
    | port k =>
      refine ⟨(if mine then [.port k] else []) ++ before, ?_, fun hu => ?_⟩
      · rw [activity_port, show activity own mine _ = _ from hbefore, List.append_assoc]
      · obtain ⟨hall, hsum⟩ := hdelays hu.2
        rw [hu.1 k rfl]
        exact ⟨hall, Nat.le_trans hsum (Nat.le_add_left ..)⟩
    | delay ms =>
      cases mine with
      | false =>
        refine ⟨before, (activity_delay_other ms _).trans hbefore, fun hu => ?_⟩
        obtain ⟨hall, hsum⟩ := hdelays hu.2
        exact ⟨hall, Nat.le_trans hsum (Nat.le_add_left ..)⟩
      | true =>
        rcases activity_delay ms (front ++ .port n :: rest) with hnew | ⟨x, more, hmore, hrun⟩
        · refine ⟨.delay ms.toNat :: before, by rw [hnew]; exact congrArg _ hbefore, fun hu => ?_⟩
          obtain ⟨hall, hsum⟩ := hdelays hu.2
          refine ⟨List.forall_mem_cons.mpr ⟨rfl, hall⟩, ?_⟩
          rw [List.map_cons, List.sum_cons]
          exact Nat.add_le_add_left hsum _
        · -- The delay runs into the first one of `before`.
          have heq : .delay x :: more = before ++ .port n :: activity own true (runs rest) :=
            hmore.symm.trans hbefore
          cases before with
          | nil => exact absurd (List.cons.inj heq).1 (fun he => Activity.noConfusion he)
          | cons a before =>
            obtain ⟨rfl, rfl⟩ := List.cons.inj heq
            refine ⟨.delay (min (ms.toNat + x) longestDelay) :: before, hrun, fun hu => ?_⟩
            obtain ⟨hall, hsum⟩ := hdelays hu.2
            refine ⟨List.forall_mem_cons.mpr ⟨rfl, (List.forall_mem_cons.mp hall).2⟩, ?_⟩
            have hmin : min (ms.toNat + x) longestDelay ≤ ms.toNat + x := Nat.min_le_left ..
            simp only [List.map_cons, List.sum_cons, Activity.pause, Step.pause] at hsum ⊢
            omega
    | select _ | speed _ | read _ _ | cycles _ | serial _ _ | finish =>
      refine ⟨before, (hsame (by simp) (by simp)).trans hbefore, fun hu => ?_⟩
      obtain ⟨hall, hsum⟩ := hdelays hu.2
      exact ⟨hall, Nat.le_trans hsum (Nat.le_add_left ..)⟩

/-! ### The rules -/

theorem hasShortDelay_eq_false {g : List Activity} (h : hasShortDelay g = false) {ms : Nat}
    (hms : .delay ms ∈ g) : 1000 ≤ ms := by
  have hnot : ¬ decide (ms < 1000) = true := List.any_eq_false.mp h _ hms
  exact Nat.not_lt.mp (of_decide_eq_false (Bool.eq_false_iff.mpr hnot))

/-- Two ports side by side stand alone. -/
theorem hasBarePort_eq_false {before after : List Activity} {p q : UInt8}
    (h : hasBarePort (before ++ .port p :: .port q :: after) = false) : before = [] ∧ after = [] := by
  induction before with
  | nil =>
    refine ⟨rfl, ?_⟩
    cases after with
    | nil => rfl
    | cons a after => simp [hasBarePort, Activity.isDelay] at h
  | cons a before ih =>
    exfalso
    cases before with
    | nil => simp [hasBarePort, Activity.isDelay] at h
    | cons b before =>
      have htail : hasBarePort ((b :: before) ++ .port p :: .port q :: after) = false := by
        cases before with
        | nil =>
          simp only [List.cons_append, List.nil_append, hasBarePort, Bool.or_eq_false_iff] at h ⊢
          exact h.2
        | cons c before =>
          simp only [List.cons_append, hasBarePort, Bool.or_eq_false_iff] at h ⊢
          exact h.2
      exact absurd (ih htail).1 (List.cons_ne_nil b before)

theorem hasDirectChange_eq_false {before after : List UInt8} {p q : UInt8}
    (h : hasDirectChange (before ++ p :: q :: after) = false) : p = 0 ∨ q = 0 ∨ p = q := by
  induction before with
  | nil =>
    simp only [List.nil_append, hasDirectChange, Bool.or_eq_false_iff] at h
    have hpq := h.1
    by_cases hp : p = 0
    · exact .inl hp
    · by_cases hq : q = 0
      · exact .inr (.inl hq)
      · exact .inr (.inr (by simpa [hp, hq] using hpq))
  | cons a before ih =>
    cases before with
    | nil =>
      simp only [List.cons_append, List.nil_append, hasDirectChange, Bool.or_eq_false_iff] at h ih
      exact ih (by simpa [hasDirectChange] using h.2)
    | cons b before =>
      simp only [List.cons_append, hasDirectChange, Bool.or_eq_false_iff] at h
      exact ih h.2

/-- **Two ports in a row** of a group that breaks no rule, with nothing but delays
between them. -/
theorem broken?_between {before between after : List Activity} {p q : UInt8}
    (h : broken? (before ++ .port p :: (between ++ .port q :: after)) = none)
    (hdelays : ∀ a ∈ between, a.isDelay = true) :
    (p = 0 ∨ q = 0 ∨ p = q) ∧ (1000 ≤ (between.map Activity.pause).sum ∨
      before ++ .port p :: (between ++ .port q :: after) = [.port p, .port q]) := by
  obtain ⟨hshort, hbare, hdirect⟩ : hasShortDelay _ = false ∧ hasBarePort _ = false ∧
      hasDirectChange _ = false := by
    unfold broken? at h
    split at h
    · cases h
    split at h
    · cases h
    split at h
    · cases h
    exact ⟨Bool.eq_false_iff.mpr ‹_›, Bool.eq_false_iff.mpr ‹_›, Bool.eq_false_iff.mpr ‹_›⟩
  constructor
  · have hnone : between.filterMap Activity.port? = [] := by
      apply List.filterMap_eq_nil_iff.mpr
      intro a ha
      cases a with
      | delay ms => rfl
      | port n => cases hdelays _ ha
    have hports : (before ++ .port p :: (between ++ .port q :: after)).filterMap Activity.port? =
        before.filterMap Activity.port? ++ p :: q :: after.filterMap Activity.port? := by
      simp [hnone, Activity.port?]
    rw [hports] at hdirect
    exact hasDirectChange_eq_false hdirect
  · cases between with
    | nil =>
      obtain ⟨rfl, rfl⟩ := hasBarePort_eq_false hbare
      exact .inr rfl
    | cons a between =>
      left
      cases a with
      | port n => cases hdelays _ (List.mem_cons_self ..)
      | delay ms =>
        have hms : 1000 ≤ ms := hasShortDelay_eq_false hshort (by simp)
        simp only [List.map_cons, List.sum_cons, Activity.pause]
        omega

/-! ### Groups -/

theorem runs_of_select {label : String} {steps : List Step} (h : .select label ∈ steps) :
    ∃ r ∈ (runs steps).2, r.label = label := by
  induction steps with
  | nil => exact absurd h List.not_mem_nil
  | cons st rest ih =>
    rcases List.mem_cons.mp h with rfl | h
    · exact ⟨⟨label, (runs rest).1⟩, List.mem_cons_self .., rfl⟩
    · obtain ⟨r, hr, hlabel⟩ := ih h
      refine ⟨r, ?_, hlabel⟩
      cases st with
      | select l => exact List.mem_cons_of_mem _ hr
      | _ => exact hr

/-- The group of a switch that is selected is the activity on it. -/
theorem group?_of_select {label : String} {steps : List Step} (h : .select label ∈ steps) :
    group? (runs steps) label = some (activity (fun l => l == label) true (runs steps)) := by
  obtain ⟨r, hr, hlabel⟩ := runs_of_select h
  have hmem : r ∈ (runs steps).2.filter fun r => r.label == label :=
    List.mem_filter.mpr ⟨hr, beq_iff_eq.mpr hlabel⟩
  unfold group? activity
  split
  next hnil => rw [hnil] at hmem; exact absurd hmem List.not_mem_nil
  next => rfl

end Safety

/-- A batch that switches safely breaks no rule in any group. -/
theorem Sequence.broken?_of_violation? {s : Sequence} (h : s.violation? = none) {label : String}
    {b : Binding} (hb : s.aliases.get? label = some b) {g : List Safety.Activity}
    (hg : Safety.group? (Safety.runs s.steps) label = some g) : Safety.broken? g = none := by
  have hnone := List.findSome?_eq_none_iff.mp h (label, b) (Aliases.mem_of_get? hb)
  rw [Option.map_eq_none_iff, hg] at hnone
  exact hnone

end SwitchBench
