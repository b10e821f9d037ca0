import Mathlib.Data.List.SplitBy
import SwitchBench.Proofs.Script.Blocks
import SwitchBench.Proofs.Script.Switching

/-! What the check of safe switching reports.

The rules are read off the steps: of a batch there remain its selections, its ports and its delays, of
which those in a row count as one (`Safety.marks`). The group of an alias are the delays before any
selection and what comes after each selection of the alias up to the next one (`Safety.group`). The
check reports the first alias in the order of declaration whose group breaks a rule, and the first
rule that it breaks (`Sequence.violation?_reports`). -/
namespace SwitchBench

namespace Safety

/-! ### Groups -/

/-- What remains of a batch. -/
inductive Mark where
  | select (label : String)
  | on (a : Activity)

namespace Mark

def label? : Mark → Option String
  | select label => some label
  | on _ => none

def activity? : Mark → Option Activity
  | select _ => none
  | on a => some a

end Mark

/-- Both steps are delays. -/
def bothDelay : Step → Step → Bool
  | .delay _, .delay _ => true
  | _, _ => false

/-- A selection or a port is a stretch of its own; the delays of a stretch count together. -/
def markOf? : List Step → Option Mark
  | .select label :: _ => some (.select label)
  | .port n :: _ => some (.on (.port n))
  | .delay ms :: more => some (.on (.delay (min ((Step.delay ms :: more).map Step.pause).sum longestDelay)))
  | _ => none

/-- What remains of steps: their selections, ports and delays, of which those in a row count as one. -/
def marks (steps : List Step) : List Mark := ((steps.filter Step.isSwitching).splitBy bothDelay).filterMap markOf?

/-- The nearest selection before a place. -/
def nearest? (ms : List Mark) (i : Nat) : Option String := ((ms.take i).filterMap Mark.label?).getLast?

/-- The ports and delays whose nearest selection is as asked for. -/
def picked (asked : Option String → Bool) (ms : List Mark) : List Activity :=
  ms.zipIdx.filterMap fun (m, i) => if asked (nearest? ms i) then m.activity? else none

/-- The group of an alias: the delays before any selection, and the ports and delays whose nearest selection
is of the alias. -/
def group (steps : List Step) (label : String) : List Activity :=
  (picked (· == none) (marks steps)).filter Activity.isDelay ++ picked (· == some label) (marks steps)

/-! ### Rules -/

/-- There is a delay at a place. -/
def DelayAt (g : List Activity) (i : Nat) : Prop := ∃ ms, g[i]? = some (.delay ms)

/-- A group breaks a rule: -/
def Breaks (g : List Activity) : Rule → Prop
  /- a delay is below a second; -/
  | .minimumDelay => ∃ ms, .delay ms ∈ g ∧ ms < 1000
  /- a port that is neither first nor last lacks a delay on one side; -/
  | .portWithoutDelay => ∃ i n, g[i]? = some (.port n) ∧ 0 < i ∧ i + 1 < g.length ∧
      ¬ (DelayAt g (i - 1) ∧ DelayAt g (i + 1))
  /- a port that is on comes right before or after a different port that is on. -/
  | .portOnWithoutPortOff => ∃ i j p q, (g.filterMap Activity.port?)[i]? = some p ∧
      (g.filterMap Activity.port?)[j]? = some q ∧ (j + 1 = i ∨ i + 1 = j) ∧ p ≠ 0 ∧ q ≠ 0 ∧ q ≠ p

/-- The rules in the order in which they are checked. -/
def Rule.inOrder : List Rule := [minimumDelay, portWithoutDelay, portOnWithoutPortOff]

/-- A group breaks a rule and none before it. -/
def BreaksFirst (g : List Activity) (rule : Rule) : Prop :=
  Breaks g rule ∧ ∃ before after, Rule.inOrder = before ++ rule :: after ∧ ∀ r ∈ before, ¬ Breaks g r

end Safety

/-- The group of an alias that is selected breaks a rule. -/
def Sequence.Errs (s : Sequence) (label : String) : Prop :=
  .select label ∈ s.steps ∧ ∃ rule, Safety.Breaks (Safety.group s.steps label) rule

namespace Safety

/-! ### Runs are stretches -/

section
variable {α : Type} {r : α → α → Bool} {a b : α} {l : List α}

/-- What stands in front of a stretch and goes with it is part of it. -/
theorem splitBy_cons_of_rel (h : r a b = true) :
    ∃ g gs, (b :: l).splitBy r = (b :: g) :: gs ∧ (a :: b :: l).splitBy r = (a :: b :: g) :: gs := by
  obtain ⟨hflat, hnil, hchain, hapart⟩ := List.splitBy_eq_iff.mp (rfl : (b :: l).splitBy r = _)
  cases hsplit : (b :: l).splitBy r with
  | nil => exact absurd (List.splitBy_eq_nil.mp hsplit) (List.cons_ne_nil b l)
  | cons h gs =>
    rw [hsplit] at hflat hnil hchain hapart
    cases h with
    | nil => exact absurd (List.mem_cons_self ..) hnil
    | cons c g =>
      obtain ⟨rfl, htail⟩ := List.cons.inj hflat
      refine ⟨g, gs, rfl, List.splitBy_eq_iff.mpr ⟨by rw [htail]; rfl, by simpa using hnil, ?_, ?_⟩⟩
      · refine List.forall_mem_cons.mpr ⟨.cons_cons h (hchain _ (List.mem_cons_self ..)), fun m hm => ?_⟩
        exact hchain m (List.mem_cons_of_mem _ hm)
      · cases gs with
        | nil => exact .singleton _
        | cons m gs =>
          obtain ⟨⟨ha, hb, hr⟩, hrest⟩ := List.isChain_cons_cons.mp hapart
          exact .cons_cons ⟨List.cons_ne_nil _ _, hb, by rw [List.getLast_cons ha]; exact hr⟩ hrest

/-- What does not go with what comes next is a stretch of its own. -/
theorem splitBy_cons_of_not_rel (h : ∀ b ∈ l.head?, r a b = false) : (a :: l).splitBy r = [a] :: l.splitBy r := by
  have happend := @List.splitBy_append α r [a] l (by simpa using h)
  rwa [List.singleton_append, List.splitBy_of_isChain (List.cons_ne_nil _ _) (.singleton a)] at happend

end

/-- A delay goes in front of what remains of the steps after it, or into the delay that stands there. -/
def Mark.delayed (ms : Nat) : List Mark → List Mark
  | .on (.delay more) :: rest => .on (.delay (min (ms + more) longestDelay)) :: rest
  | rest => .on (.delay ms) :: rest

theorem marks_other {st : Step} (h : st.isSwitching = false) (rest : List Step) : marks (st :: rest) = marks rest := by
  rw [marks, List.filter_cons_of_neg (by simp [h]), marks]

theorem marks_select (label : String) (rest : List Step) :
    marks (.select label :: rest) = .select label :: marks rest := by
  rw [marks, List.filter_cons_of_pos rfl, splitBy_cons_of_not_rel (fun b _ => rfl)]
  rfl

theorem marks_port (n : UInt8) (rest : List Step) : marks (.port n :: rest) = .on (.port n) :: marks rest := by
  rw [marks, List.filter_cons_of_pos rfl, splitBy_cons_of_not_rel (fun b _ => rfl)]
  rfl

theorem marks_delay (ms : UInt64) (rest : List Step) :
    marks (.delay ms :: rest) = Mark.delayed ms.toNat (marks rest) := by
  rw [marks, List.filter_cons_of_pos rfl, marks]
  have hms : min ms.toNat longestDelay = ms.toNat := Nat.min_eq_left (Nat.le_of_lt_succ ms.toNat_lt)
  have halone : ∀ {kept : List Step}, (∀ b ∈ kept.head?, bothDelay (.delay ms) b = false) →
      ((Step.delay ms :: kept).splitBy bothDelay).filterMap markOf? =
        .on (.delay ms.toNat) :: (kept.splitBy bothDelay).filterMap markOf? := by
    intro kept hkept
    rw [splitBy_cons_of_not_rel hkept, List.filterMap_cons_some (b := .on (.delay ms.toNat))]
    simp [markOf?, Step.pause, hms]
  cases hkept : rest.filter Step.isSwitching with
  | nil => exact halone (fun b hb => by cases hb)
  | cons st kept =>
    have hst : st.isSwitching = true := List.of_mem_filter (hkept ▸ List.mem_cons_self ..)
    cases st with
    | select label =>
      rw [halone (fun b hb => by cases hb; rfl), splitBy_cons_of_not_rel (fun b _ => rfl)]
      rfl
    | port n =>
      rw [halone (fun b hb => by cases hb; rfl), splitBy_cons_of_not_rel (fun b _ => rfl)]
      rfl
    | delay more =>
      obtain ⟨g, gs, hrest, hall⟩ := @splitBy_cons_of_rel _ bothDelay (.delay ms) (.delay more) kept rfl
      rw [hrest, hall]
      simp only [List.filterMap_cons, markOf?, Mark.delayed, List.map_cons, List.sum_cons, Step.pause]
      congr 3
      omega
    | _ => cases hst

/-- What runs come to. -/
def Mark.ofRuns (rs : List Activity × List Run) : List Mark :=
  rs.1.map .on ++ rs.2.flatMap fun r => .select r.label :: r.activity.map .on

/-- **What remains of steps** is what the check takes of them. -/
theorem marks_eq (steps : List Step) : marks steps = Mark.ofRuns (runs steps) := by
  induction steps with
  | nil => rfl
  | cons st rest ih =>
    cases st with
    | select label => rw [marks_select, ih]; simp [Mark.ofRuns, runs]
    | port n => rw [marks_port, ih]; simp [Mark.ofRuns, runs, Activity.before]
    | delay ms =>
      rw [marks_delay, ih]
      rcases hruns : runs rest with ⟨_ | ⟨_ | _, own⟩, others⟩
      · cases others <;> simp [Mark.ofRuns, runs, Activity.before, Mark.delayed, hruns]
      · simp [Mark.ofRuns, runs, Activity.before, Mark.delayed, hruns]
      · simp [Mark.ofRuns, runs, Activity.before, Mark.delayed, hruns]
    | _ => rw [marks_other rfl, ih]; rfl

/-! ### Picking -/

/-- What is picked from what comes after a selection. -/
def pickedFrom (asked : Option String → Bool) (near : Option String) : List Mark → List Activity
  | [] => []
  | .select label :: rest => pickedFrom asked (some label) rest
  | .on a :: rest => (if asked near then [a] else []) ++ pickedFrom asked near rest

section
variable {asked : Option String → Bool} {near : Option String}

theorem picked_append (before ms : List Mark) :
    ((ms.zipIdx before.length).filterMap fun (m, i) =>
      if asked (nearest? (before ++ ms) i) then m.activity? else none) =
      pickedFrom asked (before.filterMap Mark.label?).getLast? ms := by
  induction ms generalizing before with
  | nil => rfl
  | cons m rest ih =>
    have hnear : nearest? (before ++ m :: rest) before.length = (before.filterMap Mark.label?).getLast? := by
      rw [nearest?, List.take_left']
      rfl
    have hrest := ih (before ++ [m])
    rw [List.append_assoc, List.singleton_append, List.length_append, List.length_singleton,
      List.filterMap_append] at hrest
    rw [List.zipIdx_cons, List.filterMap_cons, hrest]
    dsimp only
    rw [hnear]
    cases m with
    | select label =>
      have hlabel : [Mark.select label].filterMap Mark.label? = [label] := rfl
      rw [hlabel, List.getLast?_concat, pickedFrom]
      simp only [Mark.activity?, ite_self]
    | on a =>
      have hlabel : [Mark.on a].filterMap Mark.label? = [] := rfl
      rw [hlabel, List.append_nil, pickedFrom]
      cases asked (before.filterMap Mark.label?).getLast? <;> rfl

theorem picked_eq (ms : List Mark) : picked asked ms = pickedFrom asked none ms := picked_append [] ms

theorem pickedFrom_on (as : List Activity) (rest : List Mark) :
    pickedFrom asked near (as.map .on ++ rest) = (if asked near then as else []) ++ pickedFrom asked near rest := by
  induction as with
  | nil => simp
  | cons a as ih =>
    rw [List.map_cons, List.cons_append, pickedFrom, ih]
    cases asked near <;> rfl

theorem pickedFrom_runs (rs : List Run) :
    pickedFrom asked near (rs.flatMap fun r => .select r.label :: r.activity.map .on) =
      (rs.filter fun r => asked (some r.label)).flatMap (·.activity) := by
  induction rs generalizing near with
  | nil => rfl
  | cons r rest ih =>
    rw [List.flatMap_cons, List.cons_append, pickedFrom, pickedFrom_on, ih]
    cases h : asked (some r.label) <;> simp [h]

theorem picked_ofRuns (rs : List Activity × List Run) : picked asked (Mark.ofRuns rs) =
    (if asked none then rs.1 else []) ++ (rs.2.filter fun r => asked (some r.label)).flatMap (·.activity) := by
  rw [picked_eq, Mark.ofRuns, pickedFrom_on, pickedFrom_runs]

end

/-- A script begins to switch with a selection. -/
theorem isDelay_of_mem_runs {as : Aliases} {steps : List Step} (h : Blocks as steps) :
    ∀ a ∈ (runs steps).1, a.isDelay = true := by
  induction h with
  | nil => exact fun a ha => by cases ha
  | cons hblock _ ih =>
    cases hblock with
    | port | fastPort => exact fun a ha => by cases ha
    | delay ms =>
      intro a ha
      rw [List.singleton_append] at ha
      unfold runs at ha
      dsimp only at ha
      unfold Activity.before at ha
      split at ha
      next hown =>
        rcases List.mem_cons.mp ha with rfl | ha
        · rfl
        · exact ih a (hown ▸ List.mem_cons_of_mem _ ha)
      next =>
        rcases List.mem_cons.mp ha with rfl | ha
        · rfl
        · exact ih a ha
    | _ => exact ih

theorem select_of_mem_runs {steps : List Step} {r : Run} (h : r ∈ (runs steps).2) : .select r.label ∈ steps := by
  induction steps with
  | nil => cases h
  | cons st rest ih =>
    cases st with
    | select label =>
      rcases List.mem_cons.mp h with rfl | h
      · exact List.mem_cons_self ..
      · exact List.mem_cons_of_mem _ (ih h)
    | _ => exact List.mem_cons_of_mem _ (ih h)

/-- An alias that is never selected has none. -/
theorem group?_eq_none {label : String} {steps : List Step} (h : .select label ∉ steps) :
    group? (runs steps) label = none := by
  have hnone : (runs steps).2.filter (fun r => r.label == label) = [] :=
    List.filter_eq_nil_iff.mpr fun r hr he => h (beq_iff_eq.mp he ▸ select_of_mem_runs hr)
  rw [group?, hnone]

/-- The group of an alias is what the check takes for it. -/
theorem group?_eq {as : Aliases} {steps : List Step} (h : Blocks as steps) {label : String}
    (hmem : .select label ∈ steps) : group? (runs steps) label = some (group steps label) := by
  rw [group?_of_select hmem, group, marks_eq, picked_ofRuns, picked_ofRuns]
  have hshared : (runs steps).1.filter Activity.isDelay = (runs steps).1 :=
    List.filter_eq_self.mpr (isDelay_of_mem_runs h)
  simp [activity, hshared]

/-! ### The rules at places -/

theorem isDelay_iff {a : Activity} : a.isDelay = true ↔ ∃ ms, a = .delay ms := by
  cases a <;> simp [Activity.isDelay]

theorem hasShortDelay_iff {g : List Activity} : hasShortDelay g = true ↔ Breaks g .minimumDelay := by
  unfold hasShortDelay Breaks
  rw [List.any_eq_true]
  constructor
  · rintro ⟨a, ha, hshort⟩
    cases a with
    | port n => cases hshort
    | delay ms => exact ⟨ms, ha, of_decide_eq_true hshort⟩
  · rintro ⟨ms, ha, hshort⟩
    exact ⟨_, ha, decide_eq_true hshort⟩

/-- A port lacks a delay at a place that is not the first. -/
def BareAt (g : List Activity) (i : Nat) : Prop :=
  (∃ n, g[i + 1]? = some (.port n)) ∧ i + 2 < g.length ∧ ¬ (DelayAt g i ∧ DelayAt g (i + 2))

theorem bareAt_succ {a : Activity} {g : List Activity} {i : Nat} : BareAt (a :: g) (i + 1) ↔ BareAt g i := by
  simp only [BareAt, DelayAt, List.getElem?_cons_succ, List.length_cons, Nat.add_right_comm i 1 2,
    Nat.add_lt_add_iff_right]

theorem bareAt_zero {a b c : Activity} {g : List Activity} :
    BareAt (a :: b :: c :: g) 0 ↔ b.isDelay = false ∧ ¬ (a.isDelay = true ∧ c.isDelay = true) := by
  have hb : b.isDelay = false ↔ ∃ n, b = .port n := by cases b <;> simp [Activity.isDelay]
  simp [BareAt, DelayAt, isDelay_iff, hb]

/-- **A bare port** by its place. -/
theorem hasBarePort_iff_bareAt {g : List Activity} : hasBarePort g = true ↔ ∃ i, BareAt g i := by
  induction g with
  | nil => simp [hasBarePort, BareAt]
  | cons a g ih =>
    cases g with
    | nil => simp [hasBarePort, BareAt]
    | cons b g =>
      cases g with
      | nil => simp [hasBarePort, BareAt]
      | cons c rest =>
        rw [hasBarePort, Bool.or_eq_true, ih, ← Nat.or_exists_add_one (p := BareAt (a :: b :: c :: rest)), bareAt_zero]
        simp [bareAt_succ, imp_iff_not_or]

theorem hasBarePort_iff {g : List Activity} : hasBarePort g = true ↔ Breaks g .portWithoutDelay := by
  rw [hasBarePort_iff_bareAt]
  constructor
  · rintro ⟨i, ⟨n, hn⟩, hlt, hbare⟩
    exact ⟨i + 1, n, hn, Nat.succ_pos i, hlt, hbare⟩
  · rintro ⟨_ | i, n, hn, hpos, hlt, hbare⟩
    · cases hpos
    · exact ⟨i, ⟨n, hn⟩, hlt, hbare⟩

/-- Two ports in a row are different and both on. -/
def ChangeAt (ps : List UInt8) (i : Nat) : Prop :=
  ∃ p q, ps[i]? = some p ∧ ps[i + 1]? = some q ∧ p ≠ 0 ∧ q ≠ 0 ∧ p ≠ q

theorem hasDirectChange_iff_changeAt {ps : List UInt8} : hasDirectChange ps = true ↔ ∃ i, ChangeAt ps i := by
  induction ps with
  | nil => simp [hasDirectChange, ChangeAt]
  | cons p ps ih =>
    cases ps with
    | nil => simp [hasDirectChange, ChangeAt]
    | cons q rest =>
      rw [hasDirectChange, Bool.or_eq_true, ih, ← Nat.or_exists_add_one (p := ChangeAt (p :: q :: rest))]
      simp [ChangeAt, and_assoc]

theorem hasDirectChange_iff {g : List Activity} :
    hasDirectChange (g.filterMap Activity.port?) = true ↔ Breaks g .portOnWithoutPortOff := by
  rw [hasDirectChange_iff_changeAt]
  constructor
  · rintro ⟨i, p, q, hp, hq, hp0, hq0, hne⟩
    exact ⟨i, i + 1, p, q, hp, hq, .inr rfl, hp0, hq0, Ne.symm hne⟩
  · rintro ⟨i, j, p, q, hp, hq, rfl | rfl, hp0, hq0, hne⟩
    · exact ⟨j, q, p, hq, hp, hq0, hp0, hne⟩
    · exact ⟨i, p, q, hp, hq, hp0, hq0, Ne.symm hne⟩

/-- Whether a group breaks a rule. -/
def breaks (g : List Activity) : Rule → Bool
  | .minimumDelay => hasShortDelay g
  | .portWithoutDelay => hasBarePort g
  | .portOnWithoutPortOff => hasDirectChange (g.filterMap Activity.port?)

theorem breaks_iff {g : List Activity} {rule : Rule} : breaks g rule = true ↔ Breaks g rule := by
  cases rule with
  | minimumDelay => exact hasShortDelay_iff
  | portWithoutDelay => exact hasBarePort_iff
  | portOnWithoutPortOff => exact hasDirectChange_iff

theorem broken?_eq_find? (g : List Activity) : broken? g = Rule.inOrder.find? (breaks g) := by
  unfold broken? Rule.inOrder
  cases hshort : hasShortDelay g <;> cases hbare : hasBarePort g <;>
    cases hdirect : hasDirectChange (g.filterMap Activity.port?) <;> simp [breaks, hshort, hbare, hdirect]

/-- **The rule that is reported** is the first that is broken. -/
theorem broken?_eq_some_iff {g : List Activity} {rule : Rule} : broken? g = some rule ↔ BreaksFirst g rule := by
  simp only [broken?_eq_find?, List.find?_eq_some_iff_append, BreaksFirst, ← breaks_iff, Bool.not_eq_true',
    Bool.not_eq_true]

theorem broken?_eq_none_iff {g : List Activity} : broken? g = none ↔ ∀ rule, ¬ Breaks g rule := by
  have hall : ∀ rule, rule ∈ Rule.inOrder := fun rule => by cases rule <;> decide
  simp only [broken?_eq_find?, List.find?_eq_none, hall, forall_const, breaks_iff]

end Safety

/-! ### What is reported -/

namespace Sequence

/-- What the check finds in the group of an alias, -/
theorem broken?_group_eq_some_iff {q : Sequence} (hq : Blocks q.aliases q.steps) {label : String} {rule : Safety.Rule} :
    (Safety.group? (Safety.runs q.steps) label).bind Safety.broken? = some rule ↔
      .select label ∈ q.steps ∧ Safety.BreaksFirst (Safety.group q.steps label) rule := by
  by_cases hmem : .select label ∈ q.steps
  · rw [Safety.group?_eq hq hmem, Option.bind_some, Safety.broken?_eq_some_iff]
    exact (and_iff_right hmem).symm
  · rw [Safety.group?_eq_none hmem]
    exact iff_of_false (fun h => by cases h) fun h => hmem h.1

/-- and when it finds nothing. -/
theorem broken?_group_eq_none_iff {q : Sequence} (hq : Blocks q.aliases q.steps) {label : String} :
    (Safety.group? (Safety.runs q.steps) label).bind Safety.broken? = none ↔ ¬ q.Errs label := by
  by_cases hmem : .select label ∈ q.steps
  · rw [Safety.group?_eq hq hmem, Option.bind_some, Safety.broken?_eq_none_iff, Errs, not_and, not_exists]
    exact ⟨fun h _ => h, fun h => h hmem⟩
  · rw [Safety.group?_eq_none hmem]
    exact iff_of_true rfl fun h => hmem h.1

/-- **The check reports what the rules say**, of every script: the first alias in the order of declaration
whose group breaks a rule, and the first rule that it breaks, or else nothing. -/
theorem violation?_reports (text : List Char) :
    let q := (Reading.ofText text).sequence
    (∀ label rule, q.violation? = some ⟨label, rule⟩ ↔
      ∃ before b after, q.aliases.entries = before ++ (label, b) :: after ∧ (∀ e ∈ before, ¬ q.Errs e.1) ∧
        .select label ∈ q.steps ∧ Safety.BreaksFirst (Safety.group q.steps label) rule) ∧
      (q.violation? = none ↔ ∀ e ∈ q.aliases.entries, ¬ q.Errs e.1) := by
  intro q
  have hq : Blocks q.aliases q.steps := (Reading.ofText_wellFormed text).blocks
  refine ⟨fun label rule => ?_, ?_⟩
  · rw [violation?, List.findSome?_eq_some_iff]
    simp only [Option.map_eq_some_iff, Option.map_eq_none_iff, broken?_group_eq_some_iff hq,
      broken?_group_eq_none_iff hq, Violation.mk.injEq]
    constructor
    · rintro ⟨before, ⟨_, b⟩, after, hentries, ⟨_, ⟨hmem, hbreaks⟩, rfl, rfl⟩, hbefore⟩
      exact ⟨before, b, after, hentries, hbefore, hmem, hbreaks⟩
    · rintro ⟨before, b, after, hentries, hbefore, hmem, hbreaks⟩
      exact ⟨before, (label, b), after, hentries, ⟨rule, ⟨hmem, hbreaks⟩, rfl, rfl⟩, hbefore⟩
  · rw [violation?, List.findSome?_eq_none_iff]
    simp only [Option.map_eq_none_iff, broken?_group_eq_none_iff hq]

/-- A delay in front is in every group, and delays on both sides of a reading are one. -/
example :
    Safety.group [.delay 100, .select "a", .port 1, .delay 600, .read "a" .status, .delay 600, .select "b", .port 2,
      .select "a", .port 0] "a" = [.delay 100, .port 1, .delay 1200, .port 0] := by
  decide

end Sequence

end SwitchBench
