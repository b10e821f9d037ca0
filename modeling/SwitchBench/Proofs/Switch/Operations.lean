import SwitchBench.Dispatch.Sink

/-! What operations do to a bench.

An operation that fails leaves the bench as it was. One that succeeds changes what the
bench keeps of the one switch that it names: the model in its handle, if one is held,
and its state, if it is known (`Bench.kept`). -/
namespace SwitchBench

/-! ### The bus -/

namespace Bus

theorem snapshot?_set (bus : Bus) (id k : SwitchId) (s : Snapshot) :
    (bus.set id s).snapshot? k = if k = id then some s else bus.snapshot? k :=
  bus.switches.get?_set id k s

theorem set_of_snapshot? {bus : Bus} {id : SwitchId} {s : Snapshot} (h : bus.snapshot? id = some s) :
    bus.set id s = bus := by
  rw [set, Roster.set_of_get? h]

theorem snapshot?_update (bus : Bus) (id k : SwitchId) (f : Snapshot → Snapshot) :
    (bus.update id f).snapshot? k = if k = id then (bus.snapshot? id).map f else bus.snapshot? k := by
  cases hid : bus.snapshot? id with
  | none =>
    simp only [update, hid, Option.map_none]
    split
    next heq => rw [heq, hid]
    next => rfl
  | some s =>
    simp only [update, hid, Option.map_some]
    exact bus.snapshot?_set id k (f s)

@[simp] theorem scan_update (bus : Bus) (id : SwitchId) (f : Snapshot → Snapshot) :
    (bus.update id f).scan = bus.scan := by
  unfold update
  split <;> rfl

@[simp] theorem fallback_update (bus : Bus) (id : SwitchId) (f : Snapshot → Snapshot) :
    (bus.update id f).fallback = bus.fallback := by
  unfold update
  split <;> rfl

/-- A listing has the known switches in ascending order. -/
theorem listing_ids (bus : Bus) : bus.listing.map (·.id) = bus.switches.ids := by
  simp [listing, Roster.ids]

/-- The switch that is there to be opened: a known one as it is, any other as it comes. -/
def found? (bus : Bus) (id : SwitchId) : Option Snapshot :=
  (bus.snapshot? id).or (bus.fallback.map .fresh)

/-- Opening fails for want of a switch or of an answer, and then nothing is changed. -/
theorem opening_eq (bus : Bus) (id : SwitchId) : bus.opening id =
    match bus.found? id with
    | none => (.error (.cannotOpen id "no such device"), bus)
    | some s =>
      if s.responsive then (.ok s.model, bus.set id { s with isOpen := true })
      else (.error (.noResponse id), bus) := by
  unfold opening found? meet
  cases hid : bus.snapshot? id with
  | some s => simp [hid]
  | none =>
    cases bus.fallback with
    | none => simp [hid]
    | some model =>
      have hmet : (bus.set id (.fresh model)).snapshot? id = some (.fresh model) := by
        rw [snapshot?_set, if_pos rfl]
      have hset : ∀ s, (bus.set id (.fresh model)).set id s = bus.set id s := fun s => by
        simp only [set, Roster.set_set]
      simp only [hmet, hset, Option.none_or, Option.map_some]
      rfl

end Bus

namespace Bench

/-! ### Operations -/

/-- What is done with a bench. -/
inductive Operation where
  /-- A command is carried out. -/
  | command (c : Command)
  /-- The attached switches are searched for. -/
  | discover
  /-- A switch begins or ceases to answer. -/
  | setResponsive (id : SwitchId) (on : Bool)

/-- Carries out an operation. -/
def operate (b : Bench) : Operation → Except SwitchError Unit × Bench
  | .command c => ((b.perform c).1.map fun _ => (), (b.perform c).2)
  | .discover => (b.discover.map fun _ => (), b)
  | .setResponsive id on => (.ok (), b.setResponsive id on)

/-- The bench after operations, one after another. -/
def run (b : Bench) : List Operation → Bench
  | [] => b
  | o :: rest => run (b.operate o).2 rest

section
variable (b : Bench) (id : SwitchId)

theorem connect_eq : b.connect id =
    if b.isConnected id then (.error (.alreadyConnected id), b)
    else match b.bus.found? id with
      | none => (.error (.cannotOpen id "no such device"), b)
      | some s =>
        if s.responsive then
          (.ok s.model, ⟨b.bus.set id { s with isOpen := true }, b.handles.set id s.model⟩)
        else (.error (.noResponse id), b) := by
  unfold connect
  rw [Bus.opening_eq]
  cases b.bus.found? id with
  | none => rfl
  | some s => cases hs : s.responsive <;> simp [hs]

theorem disconnect_eq : b.disconnect id =
    if b.isConnected id then (.ok (), ⟨b.bus.close id, b.handles.erase id⟩)
    else (.error (.notConnected id), b) := by
  unfold disconnect forget
  cases b.isConnected id <;> rfl

/-- A command to a handle is refused, is not answered, or is carried out. -/
theorem command_cases {α : Type} (refuse : Model → Option SwitchError) (act : Snapshot → α × Snapshot) :
    (∃ e, b.command id refuse act = (.error e, b)) ∨
      ∃ m s, b.handles.get? id = some m ∧ b.bus.snapshot? id = some s ∧ refuse m = none ∧
        b.command id refuse act = (.ok (act s).1, { b with bus := b.bus.set id (act s).2 }) := by
  unfold command
  split
  · exact .inl ⟨_, rfl⟩
  next m hm =>
    split
    · exact .inl ⟨_, rfl⟩
    next hrefuse =>
      split
      · exact .inl ⟨_, rfl⟩
      next s hs =>
        exact .inr ⟨m, s, hm, (Option.filter_eq_some_iff.mp hs).1, hrefuse, rfl⟩

/-- Reading leaves the switch as it is. -/
theorem read_snd (p : Parameter) : (b.read id p).2 = b := by
  unfold read
  rcases b.command_cases id _ fun s => (s.report p, s) with ⟨e, h⟩ | ⟨m, s, -, hs, -, h⟩
  · rw [h]
  · rw [h, Bus.set_of_snapshot? hs]

end

/-! ### Failures -/

section
variable {b : Bench} {e : SwitchError}

theorem connect_error {id : SwitchId} (h : (b.connect id).1 = .error e) : (b.connect id).2 = b := by
  rw [connect_eq] at h ⊢
  split
  · rfl
  next hidle =>
    cases hs : b.bus.found? id with
    | none => rfl
    | some s =>
      cases hr : s.responsive with
      | false => simp [hr]
      | true =>
        rw [if_neg hidle, hs] at h
        simp [hr] at h

theorem disconnect_error {id : SwitchId} (h : (b.disconnect id).1 = .error e) :
    (b.disconnect id).2 = b := by
  rw [disconnect_eq] at h ⊢
  split
  next hconnected => simp [hconnected] at h
  · rfl

theorem command_error {α : Type} {id : SwitchId} {refuse : Model → Option SwitchError}
    {act : Snapshot → α × Snapshot} (h : (b.command id refuse act).1 = .error e) :
    (b.command id refuse act).2 = b := by
  rcases b.command_cases id refuse act with ⟨e', hfail⟩ | ⟨m, s, -, -, -, hdone⟩
  · rw [hfail]
  · rw [hdone] at h
    cases h

/-- **A command that fails changes nothing.** -/
theorem perform_error {c : Command} (h : (b.perform c).1 = .error e) : (b.perform c).2 = b := by
  have hmap : ∀ {α : Type} {f : α → String} {r : Except SwitchError α}, r.map f = .error e →
      r = .error e := by
    intro α f r hr
    cases r with
    | error e' => exact congrArg _ (Except.error.inj hr)
    | ok a => cases hr
  cases c with
  | connect id via baud => exact connect_error (hmap h)
  | disconnect id => exact disconnect_error (hmap h)
  | port id n | speed id mode => exact command_error h
  | read id p => exact b.read_snd id p

/-- **An operation that fails changes nothing.** -/
theorem operate_error {o : Operation} (h : (b.operate o).1 = .error e) : (b.operate o).2 = b := by
  cases o with
  | command c =>
    cases hc : (b.perform c).1 with
    | error e' => exact perform_error hc
    | ok t =>
      simp only [operate, hc] at h
      cases h
  | discover => rfl
  | setResponsive id on => cases h

end

/-! ### Searches -/

section
variable (b : Bench) (id : SwitchId)

theorem connect_scan : (b.connect id).2.bus.scan = b.bus.scan := by
  rw [connect_eq]
  split
  · rfl
  · split
    · rfl
    · split <;> rfl

theorem disconnect_scan : (b.disconnect id).2.bus.scan = b.bus.scan := by
  rw [disconnect_eq]
  split
  · exact b.bus.scan_update id _
  · rfl

theorem command_scan {α : Type} (refuse : Model → Option SwitchError) (act : Snapshot → α × Snapshot) :
    (b.command id refuse act).2.bus.scan = b.bus.scan := by
  rcases b.command_cases id refuse act with ⟨e, h⟩ | ⟨m, s, -, -, -, h⟩
  · rw [h]
  · rw [h]
    rfl

/-- No operation changes how a search goes. -/
theorem operate_scan (o : Operation) : (b.operate o).2.bus.scan = b.bus.scan := by
  cases o with
  | command c =>
    cases c with
    | connect id via baud => exact b.connect_scan id
    | disconnect id => exact b.disconnect_scan id
    | port id n | speed id mode | read id p => exact b.command_scan id _ _
  | discover => rfl
  | setResponsive id on => exact b.bus.scan_update id _

end

/-! ### What is kept of a switch -/

/-- The model in the handle of a switch and the state of the switch. -/
def kept (b : Bench) (id : SwitchId) : Option Model × Option Snapshot :=
  (b.handles.get? id, b.bus.snapshot? id)

theorem isConnected_eq (b : Bench) (id : SwitchId) : b.isConnected id = (b.kept id).1.isSome := rfl

section
variable (b : Bench) (id k : SwitchId)

theorem kept_opened (m : Model) (s : Snapshot) : kept ⟨b.bus.set id s, b.handles.set id m⟩ k =
    if k = id then (some m, some s) else b.kept k := by
  simp only [kept, Roster.get?_set, Bus.snapshot?_set]
  split <;> rfl

theorem kept_closed : kept ⟨b.bus.close id, b.handles.erase id⟩ k =
    if k = id then (none, (b.bus.snapshot? id).map fun s => { s with isOpen := false })
    else b.kept k := by
  simp only [kept, Roster.get?_erase, Bus.close, Bus.snapshot?_update]
  split <;> rfl

theorem kept_set (s : Snapshot) : kept { b with bus := b.bus.set id s } k =
    if k = id then (b.handles.get? id, some s) else b.kept k := by
  simp only [kept, Bus.snapshot?_set]
  split
  next heq => rw [heq]
  · rfl

theorem kept_setResponsive (on : Bool) : (b.setResponsive id on).kept k =
    if k = id then (b.handles.get? id, (b.bus.snapshot? id).map fun s => { s with responsive := on })
    else b.kept k := by
  simp only [kept, setResponsive, Bus.setResponsive, Bus.snapshot?_update]
  split
  next heq => rw [heq]
  · rfl

end

end Bench

end SwitchBench
