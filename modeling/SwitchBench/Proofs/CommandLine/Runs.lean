import SwitchBench.CommandLine.Outcome
import SwitchBench.Proofs.Run.Admission
import SwitchBench.Proofs.Run.Tallies

/-! What comes of running a script on the bench at hand.

The switches that a script declares are attached to a bench and opened one after the other. A
switch that several aliases are bound to is opened once; where they do not agree about its
model, the last one counts (`Sequence.modelOf?`). So a script that is let through finds its
switches and comes to its end, and what it fails in can be read off its lines
(`runScriptHere_eq`). -/
namespace SwitchBench

/-! ### The switches of a script -/

namespace Sequence
variable (q : Sequence)

/-- The model of a switch by the last declared alias that is bound to it. -/
def modelOf? (id : SwitchId) : Option Model :=
  ((q.aliases.entries.filter fun e => e.2.id == id).getLast?).map (·.2.model)

theorem modelOf?_of_mem {e : String × Binding} (h : e ∈ q.aliases.entries) :
    ∃ m, q.modelOf? e.2.id = some m := by
  have hmem : e ∈ q.aliases.entries.filter fun f => f.2.id == e.2.id := List.mem_filter.mpr ⟨h, by simp⟩
  exact ⟨_, congrArg (Option.map _) (List.getLast?_eq_some_getLast (List.ne_nil_of_mem hmem))⟩

theorem snapshot?_bench (id : SwitchId) : q.bench.bus.snapshot? id = (q.modelOf? id).map .fresh := by
  show (Roster.ofList (q.declared.map fun e => (e.1, Snapshot.fresh e.2))).get? id = _
  rw [Roster.get?_ofList, declared, List.map_map, List.filter_map, List.getLast?_map, modelOf?,
    Option.map_map, Option.map_map]
  rfl

end Sequence

/-! ### Opening them -/

/-- On a bench with switches of these models, those among `ids` have been opened. -/
def Bench.Opened (b : Bench) (model? : SwitchId → Option Model) (ids : List SwitchId) : Prop :=
  ∀ id, b.kept id = (if id ∈ ids then model? id else none,
    (model? id).map fun m => { Snapshot.fresh m with isOpen := decide (id ∈ ids) })

namespace Bench.Opened
variable {b : Bench} {model? : SwitchId → Option Model} {ids : List SwitchId}

/-- A switch that is there is opened, unless it has been opened before. -/
theorem connect (h : b.Opened model? ids) {id : SwitchId} {m : Model} (hm : model? id = some m) :
    (b.connect id).2.Opened model? (id :: ids) := by
  have hid := h id
  rw [hm] at hid
  by_cases hopen : id ∈ ids
  · have hconnected : b.isConnected id = true := by simp [isConnected_eq, hid, hopen]
    intro k
    have hmem : k ∈ id :: ids ↔ k ∈ ids := by
      rw [List.mem_cons, or_iff_right_of_imp (fun he => he ▸ hopen)]
    rw [b.connect_eq, if_pos hconnected, h k]
    simp only [hmem]
  · have hidle : b.isConnected id = false := by simp [isConnected_eq, hid, hopen]
    have hfound : b.bus.found? id = some (.fresh m) := by
      have hsnapshot : b.bus.snapshot? id = some (.fresh m) := by
        simpa [kept, Snapshot.fresh, hopen] using congrArg Prod.snd hid
      rw [Bus.found?, hsnapshot, Option.some_or]
    have hconnect : (b.connect id).2 =
        ⟨b.bus.set id { Snapshot.fresh m with isOpen := true }, b.handles.set id m⟩ := by
      rw [b.connect_eq, hidle, hfound]
      rfl
    intro k
    rw [hconnect, kept_opened, h k]
    by_cases hk : k = id
    · subst hk
      simp [hm]
    · simp [hk]

/-- **One after the other** they are opened. -/
theorem openAll (h : b.Opened model? ids) {more : List SwitchId} (hmore : ∀ id ∈ more, ∃ m, model? id = some m) :
    (openAll benchSink more b).Opened model? (more.reverse ++ ids) := by
  induction more generalizing b ids with
  | nil => exact h
  | cons id rest ih =>
    obtain ⟨⟨m, hm⟩, hrest⟩ := List.forall_mem_cons.mp hmore
    have hopened := ih (h.connect hm) hrest
    rw [List.reverse_cons, List.append_assoc]
    have hsink : (benchSink (.connect id .serial none) b).2 = (b.connect id).2 := benchSink_snd ..
    show (SwitchBench.openAll benchSink rest (benchSink (.connect id .serial none) b).2).Opened _ _
    rwa [hsink]

end Bench.Opened

namespace Sequence
variable (q : Sequence)

theorem mem_declared_iff {id : SwitchId} : id ∈ q.declared.map Prod.fst ↔ ∃ m, q.modelOf? id = some m := by
  rw [declared, List.map_map]
  constructor
  · intro h
    obtain ⟨e, he, rfl⟩ := List.mem_map.mp h
    exact q.modelOf?_of_mem he
  · rintro ⟨m, hm⟩
    obtain ⟨e, he, -⟩ := Option.map_eq_some_iff.mp hm
    obtain ⟨hmem, hid⟩ := List.mem_filter.mp (List.mem_of_getLast? he)
    exact List.mem_map.mpr ⟨e, hmem, by simpa using hid⟩

/-- The bench of a sequence once its switches have been opened. -/
def openedBench : Bench := openAll benchSink (q.declared.map Prod.fst) q.bench

theorem opened : q.openedBench.Opened q.modelOf? (q.declared.map Prod.fst).reverse := by
  have hbegun : q.bench.Opened q.modelOf? [] := by
    intro id
    rw [Bench.kept, q.snapshot?_bench]
    rfl
  have hopened := hbegun.openAll fun id hid => q.mem_declared_iff.mp hid
  rwa [List.append_nil] at hopened

/-- The models in its handles are those by the last aliases. -/
theorem handles_openedBench : q.openedBench.handles.get? = q.modelOf? := by
  funext id
  have hkept : q.openedBench.handles.get? id = _ := congrArg Prod.fst (q.opened id)
  rw [hkept]
  dsimp only
  split
  · rfl
  next hnone =>
    rw [List.mem_reverse, q.mem_declared_iff, ← Option.isSome_iff_exists, Option.not_isSome_iff_eq_none] at hnone
    exact hnone.symm

/-- **The switches that a script takes are there.** -/
theorem isReady_openedBench {id : SwitchId} (h : id ∈ q.requiredIds) : q.openedBench.IsReady id := by
  obtain ⟨step, -, label, b, -, hlabel, rfl⟩ := mem_requiredIds_iff.mp h
  obtain ⟨m, hm⟩ := q.modelOf?_of_mem (Aliases.mem_of_get? hlabel)
  have hsnapshot : q.openedBench.bus.snapshot? b.id = _ := congrArg Prod.snd (q.opened b.id)
  refine ⟨⟨m, q.handles_openedBench ▸ hm⟩, Option.isSome_iff_exists.mp ?_⟩
  rw [Bus.answering?, hsnapshot, hm]
  rfl

end Sequence

/-! ### Running a script -/

theorem Sink.worksOn_bench : benchSink.surroundings.WorksOn id where
  sink c b := ⟨rfl, benchSink_snd c b⟩
  console _ h := by cases h
  crashes _ _ := rfl
  thread _ := rfl

/-- What a run of a script comes to on the bench of its switches. -/
theorem Sequence.completes_runThrough {q : Sequence} (hq : q.WellFormed) (hsteps : q.steps ≠ []) :
    ∃ summary : Summary, (q.runThrough benchSink false q.bench).1 = some (.ok summary) ∧
      summary.Completes q q.modelOf? := by
  rw [← q.handles_openedBench]
  exact Runner.completes_run hq hsteps Sink.worksOn_bench rfl (fun _ => q.isReady_openedBench) 1 fun _ => rfl

/-- The line that sums up a run that was completed, and whether it was clean. -/
theorem Summary.Completes.line_eq {summary : Summary} {q : Sequence} {model? : SwitchId → Option Model}
    (h : summary.Completes q model?) :
    let failures := min 4294967295 (q.cycles.toNat * q.addressed.countP (Addressed.fails model?))
    summary.line = s!"completed: {q.cycles.toNat} cycles, 0 passed, {failures} failed" := by
  intro failures
  have hfailures : summary.progress.tally.failures.toNat = failures := h.failures.trans (Nat.min_comm ..)
  have hliteral : ∀ t : String, toString t = t := fun _ => rfl
  unfold line
  dsimp only
  rw [h.status, h.cycles, h.passes, hfailures, ← String.toList_inj]
  simp [RunStatus.name, hliteral]

theorem Summary.Completes.isClean_eq {summary : Summary} {q : Sequence} {model? : SwitchId → Option Model}
    (h : summary.Completes q model?) (hcycles : 0 < q.cycles.toNat) :
    summary.isClean = (q.addressed.countP (Addressed.fails model?) == 0) := by
  have hnone : summary.progress.tally.failures = 0 ↔ q.addressed.countP (Addressed.fails model?) = 0 := by
    rw [← UInt32.toNat_inj, h.failures]
    show min _ 4294967295 = 0 ↔ _
    rw [Nat.min_eq_zero_iff, Nat.mul_eq_zero]
    omega
  rw [Bool.eq_iff_iff]
  simp [isClean, h.status, hnone]

/-- What comes of a script that is let through. -/
theorem Sequence.ofRun_runThrough {q : Sequence} (hq : q.WellFormed) (hsteps : q.steps ≠ []) (remarks : List String) :
    let k := q.addressed.countP (Addressed.fails q.modelOf?)
    let failures := min 4294967295 (q.cycles.toNat * k)
    (q.runThrough benchSink false q.bench).1.map (Outcome.ofRun remarks) =
      some ⟨[s!"completed: {q.cycles.toNat} cycles, 0 passed, {failures} failed"], remarks, k == 0⟩ := by
  obtain ⟨summary, hrun, hcompletes⟩ := Sequence.completes_runThrough hq hsteps
  rw [hrun, Option.map_some, Outcome.ofRun, hcompletes.line_eq, hcompletes.isClean_eq hq.cycles_pos]

/-- A script is let through that has steps, and no violation unless it may run anyhow. -/
theorem admitScript_eq (force : Bool) (text : List Char) :
    let r := Reading.ofText text
    admitScript force text =
      if r.sequence.steps = [] then .error (.failure [] r.remarks "batch script has no steps")
      else match r.sequence.violation?, force with
        | none, _ => .ok (r.sequence, r.remarks)
        | some v, true => .ok (r.sequence, r.remarks ++ [s!"warning: {v.message}"])
        | some v, false => .error (.failure [] r.remarks s!"{v.message} (use --force to run anyway)") := by
  unfold admitScript
  simp only [List.isEmpty_iff]
  split
  · rfl
  · cases (Reading.ofText text).sequence.violation? <;> cases force <;> rfl

/-- **What comes of running a script** on the bench at hand, once through its cycles. Without
steps, or with a violation and without force, it fails and puts no command to any sink. In every
other case the run is completed, and the outcome is good exactly if none of the steps is for the
console or beyond the model of the last alias that is bound to its switch. -/
theorem runScriptHere_eq (force : Bool) (text : List Char) :
    let r := Reading.ofText text
    let q := r.sequence
    let k := q.addressed.countP (Addressed.fails q.modelOf?)
    let failures := min 4294967295 (q.cycles.toNat * k)
    let line := s!"completed: {q.cycles.toNat} cycles, 0 passed, {failures} failed"
    runScriptHere force false text = some
      (if q.steps = [] then .failure [] r.remarks "batch script has no steps"
       else match q.violation?, force with
        | none, _ => ⟨[line], r.remarks, k == 0⟩
        | some v, true => ⟨[line], r.remarks ++ [s!"warning: {v.message}"], k == 0⟩
        | some v, false => .failure [] r.remarks s!"{v.message} (use --force to run anyway)") ∧
      runScriptHere force false text = (runScriptThrough benchSink force false text q.bench).1 ∧
      ∀ (σ : Type) (sink : Sink σ) (s : σ), (runScriptThrough sink force false text s).2 =
        if q.steps = [] ∨ q.violation?.isSome ∧ !force then s else (q.runThrough sink false s).2 := by
  intro r q k failures line
  have hgate := admitScript_eq force text
  unfold runScriptHere runScriptThrough
  rw [hgate]
  dsimp only
  by_cases hsteps : q.steps = []
  · rw [if_pos hsteps, if_pos hsteps]
    exact ⟨rfl, rfl, fun σ sink s => (if_pos (.inl hsteps)).symm⟩
  · rw [if_neg hsteps, if_neg hsteps]
    have hrun := Sequence.ofRun_runThrough (Reading.ofText_wellFormed text) hsteps
    cases hviolation : q.violation? with
    | none => exact ⟨hrun r.remarks, rfl, fun σ sink s => (if_neg (by simp [hsteps])).symm⟩
    | some v =>
      cases force with
      | true => exact ⟨hrun _, rfl, fun σ sink s => (if_neg (by simp [hsteps])).symm⟩
      | false => exact ⟨rfl, rfl, fun σ sink s => (if_pos (.inr ⟨rfl, rfl⟩)).symm⟩

/-- Of two aliases for one switch the last one counts. -/
example : runScriptHere false false
    "switch a = \"COM7\" \"3141\"\nswitch b = \"COM7\" \"3201\"\nmain:\nport a.p2".toList =
      some ⟨["completed: 1 cycles, 0 passed, 1 failed"], [], false⟩ := by
  rfl

end SwitchBench
