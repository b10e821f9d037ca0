import SwitchBench.Proofs.Switch.Operations

/-! The handles of a bench and the states of its switches.

Whether a switch is in use, and of what model it is, is kept twice: by the bench, which
holds its handle, and by the switch itself. Whatever is done with a bench, in whatever
order, the two agree (`Bench.Consistent`), and no switch is set to what its model cannot
do. So the bench lists the same switches in use as the bus does. -/
namespace SwitchBench

/-- A state that a switch of its model can be in. -/
structure Snapshot.Possible (s : Snapshot) : Prop where
  port_le : s.port ≤ s.model.portCount
  speed : s.model.hasSpeed = false → s.speed = .ss1

theorem Snapshot.possible_fresh (m : Model) : (fresh m).Possible where
  port_le := by cases m <;> decide
  speed _ := rfl

/-- What is kept of one switch agrees: it is open exactly if a handle is held, the model
in the handle is its own, and its state is possible. -/
structure Agrees (handle : Option Model) (snapshot : Option Snapshot) : Prop where
  isOpen : handle.isSome = true ↔ ∃ s, snapshot = some s ∧ s.isOpen = true
  model : ∀ m s, handle = some m → snapshot = some s → m = s.model
  possible : ∀ s, snapshot = some s → s.Possible

theorem agrees_none : Agrees none none where
  isOpen := by simp
  model _ _ h := by cases h
  possible _ h := by cases h

/-- A bus on which nothing has been done yet: one of listed switches, or one that takes
any identifier for a switch of its model. -/
inductive Bus.Untouched : Bus → Prop where
  | listed (models : List (SwitchId × Model)) : Untouched (listed models)
  | permissive (model : Model) : Untouched (permissive model)

namespace Bench

/-- What is kept of every switch agrees. -/
def Consistent (b : Bench) : Prop := ∀ id, Agrees (b.kept id).1 (b.kept id).2

theorem consistent_idle {bus : Bus} (h : bus.Untouched) : (idle bus).Consistent := by
  intro id
  cases h with
  | permissive model => exact agrees_none
  | listed models =>
    have hfresh : ∀ s, ((idle (.listed models)).kept id).2 = some s → ∃ m, s = .fresh m := by
      intro s hs
      obtain ⟨e, -, he⟩ := List.mem_map.mp (Roster.mem_of_get?_ofList hs)
      exact ⟨e.2, (congrArg Prod.snd he).symm⟩
    refine ⟨⟨fun h => Bool.noConfusion h, ?_⟩, ?_, fun s hs => ?_⟩
    · rintro ⟨s, hs, hopen⟩
      obtain ⟨m, rfl⟩ := hfresh s hs
      cases hopen
    · intro m s hm
      cases hm
    · obtain ⟨m, rfl⟩ := hfresh s hs
      exact Snapshot.possible_fresh m

/-! ### One operation -/

section
variable {b : Bench}

/-- What changes for one switch only has to agree there. -/
theorem Consistent.of_one (h : b.Consistent) {b' : Bench} {id : SwitchId}
    {kept : Option Model × Option Snapshot}
    (hkept : ∀ k, b'.kept k = if k = id then kept else b.kept k) (hid : Agrees kept.1 kept.2) :
    b'.Consistent := by
  intro k
  rw [hkept]
  split
  · exact hid
  · exact h k

/-- A switch that is there to be opened is in a possible state. -/
theorem Consistent.possible_of_found? (h : b.Consistent) {id : SwitchId} {s : Snapshot}
    (hs : b.bus.found? id = some s) : s.Possible := by
  rcases Option.or_eq_some_iff.mp hs with hknown | ⟨-, hnew⟩
  · exact (h id).possible s hknown
  · obtain ⟨m, -, rfl⟩ := Option.map_eq_some_iff.mp hnew
    exact Snapshot.possible_fresh m

theorem Consistent.connect (h : b.Consistent) (id : SwitchId) : (b.connect id).2.Consistent := by
  rw [connect_eq]
  split
  · exact h
  · split
    · exact h
    next s hs =>
      split
      · refine h.of_one (fun k => b.kept_opened id k s.model { s with isOpen := true }) ?_
        have hpossible := h.possible_of_found? hs
        refine ⟨by simp, ?_, ?_⟩
        · intro m s' hm hs'
          cases hm
          cases hs'
          rfl
        · intro s' hs'
          cases hs'
          exact ⟨hpossible.port_le, hpossible.speed⟩
      · exact h

theorem Consistent.disconnect (h : b.Consistent) (id : SwitchId) : (b.disconnect id).2.Consistent := by
  rw [disconnect_eq]
  split
  · refine h.of_one (b.kept_closed id) ⟨⟨fun hnone => Bool.noConfusion hnone, ?_⟩, ?_, ?_⟩
    · rintro ⟨s, hs, hopen⟩
      obtain ⟨s', -, rfl⟩ := Option.map_eq_some_iff.mp hs
      cases hopen
    · intro m s hm
      cases hm
    · intro s hs
      obtain ⟨s', hs', rfl⟩ := Option.map_eq_some_iff.mp hs
      have hpossible := (h id).possible s' hs'
      exact ⟨hpossible.port_le, hpossible.speed⟩
  · exact h

/-- A command that leaves a switch open, of its model and in a possible state. -/
theorem Consistent.command (h : b.Consistent) {α : Type} {id : SwitchId}
    {refuse : Model → Option SwitchError} {act : Snapshot → α × Snapshot}
    (hact : ∀ s, refuse s.model = none → s.Possible →
      (act s).2.isOpen = s.isOpen ∧ (act s).2.model = s.model ∧ (act s).2.Possible) :
    (b.command id refuse act).2.Consistent := by
  rcases b.command_cases id refuse act with ⟨e, hfail⟩ | ⟨m, s, hm, hs, hrefuse, hdone⟩
  · rw [hfail]
    exact h
  · rw [hdone]
    have hmodel : m = s.model := (h id).model m s hm hs
    obtain ⟨hopen, hsame, hpossible⟩ := hact s (hmodel ▸ hrefuse) ((h id).possible s hs)
    have hisOpen : s.isOpen = true := by simpa [kept, hm, hs] using (h id).isOpen
    refine h.of_one (b.kept_set id · (act s).2) ⟨?_, ?_, fun s' hs' => Option.some.inj hs' ▸ hpossible⟩
    · simp [hm, hopen, hisOpen]
    · intro m' s' hm' hs'
      cases hs'
      rw [hsame, ← hmodel]
      exact Option.some.inj (hm'.symm.trans hm)

theorem Consistent.setPort (h : b.Consistent) (id : SwitchId) (n : UInt8) :
    (b.setPort id n).2.Consistent := by
  refine h.command fun s hs hpossible => ⟨rfl, rfl, ?_, hpossible.speed⟩
  split at hs
  next haccepts => exact of_decide_eq_true haccepts
  · cases hs

theorem Consistent.setSpeed (h : b.Consistent) (id : SwitchId) (mode : Speed) :
    (b.setSpeed id mode).2.Consistent := by
  refine h.command fun s hs hpossible => ⟨rfl, rfl, hpossible.port_le, fun hnone => ?_⟩
  split at hs
  next hspeed => rw [show s.model.hasSpeed = false from hnone] at hspeed; cases hspeed
  · cases hs

theorem Consistent.setResponsive (h : b.Consistent) (id : SwitchId) (on : Bool) :
    (b.setResponsive id on).Consistent := by
  refine h.of_one (b.kept_setResponsive id · on) ⟨?_, ?_, ?_⟩
  · rw [show ((b.handles.get? id).isSome = true ↔ _) from (h id).isOpen]
    constructor
    · rintro ⟨s, hs, hopen⟩
      exact ⟨{ s with responsive := on }, Option.map_eq_some_iff.mpr ⟨s, hs, rfl⟩, hopen⟩
    · rintro ⟨s, hs, hopen⟩
      obtain ⟨s', hs', rfl⟩ := Option.map_eq_some_iff.mp hs
      exact ⟨s', hs', hopen⟩
  · intro m s hm hs
    obtain ⟨s', hs', rfl⟩ := Option.map_eq_some_iff.mp hs
    exact (h id).model m s' hm hs'
  · intro s hs
    obtain ⟨s', hs', rfl⟩ := Option.map_eq_some_iff.mp hs
    have hpossible := (h id).possible s' hs'
    exact ⟨hpossible.port_le, hpossible.speed⟩

/-- **Every operation keeps the bench consistent**, whether it fails or not. -/
theorem Consistent.operate (h : b.Consistent) (o : Operation) : (b.operate o).2.Consistent := by
  cases o with
  | command c =>
    cases c with
    | connect id via baud => exact h.connect id
    | disconnect id => exact h.disconnect id
    | port id n => exact h.setPort id n
    | speed id mode => exact h.setSpeed id mode
    | read id p =>
      show (b.read id p).2.Consistent
      rwa [b.read_snd id p]
  | discover => exact h
  | setResponsive id on => exact h.setResponsive id on

end

theorem Consistent.run {b : Bench} (h : b.Consistent) (os : List Operation) : (b.run os).Consistent := by
  induction os generalizing b with
  | nil => exact h
  | cons o rest ih => exact ih (h.operate o)

/-! ### Listings -/

/-- A consistent bench lists its switches as the bus does. -/
theorem Consistent.listing_eq {b : Bench} (h : b.Consistent) : b.listing = b.bus.listing := by
  unfold listing Bus.listing
  rw [List.map_map]
  apply List.map_congr_left
  rintro ⟨id, s⟩ hmem
  have hs : (b.kept id).2 = some s := b.bus.switches.get?_eq_some_iff.mpr hmem
  have hopen : b.isConnected id = s.isOpen := by
    apply Bool.eq_iff_iff.mpr
    rw [isConnected_eq, (h id).isOpen, hs]
    simp
  simp [hopen]

theorem run_scan (b : Bench) (os : List Operation) : (b.run os).bus.scan = b.bus.scan := by
  induction os generalizing b with
  | nil => rfl
  | cons o rest ih => exact (ih _).trans (b.operate_scan o)

/-- **Whatever is done with a bench, what it keeps agrees**: a handle is held for exactly
the switches that are open, with their models; no port is beyond those of the model and no
speed is selected where there is no choice. A search lists every known switch once, in
ascending order and in use exactly if its handle is held, just as the bus itself does. -/
theorem run_consistent {bus : Bus} (h : bus.Untouched) (os : List Operation) :
    let b := (idle bus).run os
    (∀ id, Agrees (b.handles.get? id) (b.bus.snapshot? id)) ∧
      b.discover = .ok b.bus.listing ∧
      (b.bus.listing.map (·.id)).Pairwise (· < ·) ∧
      (∀ id, id ∈ b.bus.listing.map (·.id) ↔ ∃ s, b.bus.snapshot? id = some s) ∧
      ∀ l ∈ b.bus.listing, l.connected = b.isConnected l.id := by
  intro b
  have hconsistent : b.Consistent := (consistent_idle h).run os
  have hscan : b.bus.scan = .prompt := (run_scan (idle bus) os).trans (by cases h <;> rfl)
  refine ⟨hconsistent, ?_, ?_, fun id => ?_, fun l hl => ?_⟩
  · simp only [discover, hscan, hconsistent.listing_eq]
  · rw [Bus.listing_ids]
    exact b.bus.switches.ids_ordered
  · rw [Bus.listing_ids]
    exact b.bus.switches.mem_ids_iff
  · rw [← hconsistent.listing_eq] at hl
    obtain ⟨l', -, rfl⟩ := List.mem_map.mp hl
    rfl

/-- A switch that falls silent is closed all the same, and keeps its port. -/
theorem run_consistent_silent :
    let com7 : SwitchId := ⟨"COM7"⟩
    let b := (idle (.listed [(com7, .m3141), (⟨"COM3"⟩, .m2101)])).run
      [.command (.connect com7 .serial none), .command (.port com7 2), .setResponsive com7 false,
        .command (.disconnect com7)]
    b.kept com7 = (none, some ⟨.m3141, 2, .ss1, false, false⟩) ∧
      Agrees (b.handles.get? com7) (b.bus.snapshot? com7) :=
  ⟨by decide, (run_consistent (.listed _) _).1 _⟩

end Bench

end SwitchBench
