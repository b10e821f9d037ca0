import SwitchBench.Proofs.Switch.Orders

/-! What concerns some switches only.

What is done about some switches depends on what the bench keeps of them, and changes
nothing else (`Bench.Within`). A look at a handle or at a switch and a change to one of them
are of this kind, and so is what is put together from such steps. Every command is within
its switch. -/
namespace SwitchBench

namespace Bench

/-! ### The steps of a command -/

section
variable (b : Bench) (id k : SwitchId)

/-- Opens a switch, the first half of a connect that finds no handle. -/
def openUp : Except SwitchError Model × Bench :=
  ((b.bus.opening id).1, { b with bus := (b.bus.opening id).2 })

/-- Keeps the handle of an opened switch, the second half. -/
def keep (m : Model) : Bench := { b with handles := b.handles.set id m }

/-- Why an order is not put to its switch. -/
def refusal? (c : Command) : Option SwitchError :=
  match b.handles.get? c.id with
  | none => some (.notConnected c.id)
  | some m => c.refusal? m

/-- Puts an order to its switch. -/
def carryOut (c : Command) : Except SwitchError String × Bench :=
  match b.bus.answering? c.id with
  | none => (.error (.noResponse c.id), b)
  | some s => (.ok (c.act s).1, { b with bus := b.bus.set c.id (c.act s).2 })

/-- A connect opens the switch and keeps the handle, unless one is held. -/
theorem connect_eq_openUp : b.connect id =
    if b.isConnected id then (.error (.alreadyConnected id), b)
    else match b.openUp id with
      | (.ok m, b) => (.ok m, b.keep id m)
      | (.error e, b) => (.error e, b) := by
  unfold connect openUp
  split
  · rfl
  · rcases b.bus.opening id with ⟨_ | _, _⟩ <;> rfl

/-- An order is refused or put to its switch. -/
theorem perform_eq_carryOut {c : Command} (h : c.isDevice = false) : b.perform c =
    match b.refusal? c with
    | some e => (.error e, b)
    | none => b.carryOut c := by
  rw [b.perform_order h, command, refusal?, carryOut]
  cases b.handles.get? c.id <;> rfl

theorem kept_keep (m : Model) : (b.keep id m).kept k =
    if k = id then (some m, b.bus.snapshot? id) else b.kept k := by
  simp only [kept, keep, Roster.get?_set]
  split
  next heq => rw [heq]
  · rfl

theorem kept_forgotten : kept { b with handles := b.handles.erase id } k =
    if k = id then (none, b.bus.snapshot? id) else b.kept k := by
  simp only [kept, Roster.get?_erase]
  split
  next heq => rw [heq]
  · rfl

theorem kept_release : (b.release id).kept k =
    if k = id then (b.handles.get? id, (b.bus.snapshot? id).map fun s => { s with isOpen := false })
    else b.kept k := by
  simp only [kept, release, Bus.close, Bus.snapshot?_update]
  split
  next heq => rw [heq]
  · rfl

end

/-! ### Benches that look alike -/

/-- Two benches that look alike to whoever sees only some switches. -/
structure Alike (S : SwitchId → Prop) (a b : Bench) : Prop where
  kept : ∀ id, S id → a.kept id = b.kept id
  fallback : a.bus.fallback = b.bus.fallback
  scan : a.bus.scan = b.bus.scan

namespace Alike
variable {S T : SwitchId → Prop} {a b c : Bench}

theorem refl (a : Bench) : a.Alike S a := ⟨fun _ _ => rfl, rfl, rfl⟩

theorem symm (h : a.Alike S b) : b.Alike S a :=
  ⟨fun id hid => (h.kept id hid).symm, h.fallback.symm, h.scan.symm⟩

theorem trans (hab : a.Alike S b) (hbc : b.Alike S c) : a.Alike S c :=
  ⟨fun id hid => (hab.kept id hid).trans (hbc.kept id hid), hab.fallback.trans hbc.fallback,
    hab.scan.trans hbc.scan⟩

/-- Who sees less sees no more differences. -/
theorem mono (h : a.Alike T b) (hST : ∀ id, S id → T id) : a.Alike S b :=
  ⟨fun id hid => h.kept id (hST id hid), h.fallback, h.scan⟩

/-- What looks alike in two parts looks alike as a whole. -/
theorem union (hS : a.Alike S b) (hT : a.Alike T b) : a.Alike (fun id => S id ∨ T id) b :=
  ⟨fun id hid => hid.elim (hS.kept id) (hT.kept id), hS.fallback, hS.scan⟩

section
variable (h : a.Alike S b) {id : SwitchId} (hid : S id)
include h hid

theorem handle? : a.handles.get? id = b.handles.get? id := congrArg Prod.fst (h.kept id hid)

theorem snapshot? : a.bus.snapshot? id = b.bus.snapshot? id := congrArg Prod.snd (h.kept id hid)

theorem isConnected : a.isConnected id = b.isConnected id := by
  rw [isConnected_eq, isConnected_eq, h.kept id hid]

theorem found? : a.bus.found? id = b.bus.found? id := by
  rw [Bus.found?, Bus.found?, h.snapshot? hid, h.fallback]

theorem answering? : a.bus.answering? id = b.bus.answering? id := by
  rw [Bus.answering?, Bus.answering?, h.snapshot? hid]

end

theorem refusal? (h : a.Alike S b) {c : Command} (hid : S c.id) : a.refusal? c = b.refusal? c := by
  rw [Bench.refusal?, Bench.refusal?, h.handle? hid]

/-- Benches that look alike altogether are equal. -/
theorem eq (h : a.Alike S b) (hall : ∀ id, S id) : a = b := by
  have hhandles : a.handles = b.handles := Roster.eq_of_get? fun id =>
    congrArg Prod.fst (h.kept id (hall id))
  have hswitches : a.bus.switches = b.bus.switches := Roster.eq_of_get? fun id =>
    congrArg Prod.snd (h.kept id (hall id))
  obtain ⟨⟨_, _, _⟩, _⟩ := a
  obtain ⟨⟨_, _, _⟩, _⟩ := b
  cases hhandles
  cases hswitches
  cases h.fallback
  cases h.scan
  rfl

end Alike

/-- What is done is a matter of some switches: what comes of it depends only on them, and
all others are left as they are. -/
structure Within (S : SwitchId → Prop) {α : Type} (f : Bench → α × Bench) : Prop where
  same : ∀ {a b : Bench}, a.Alike S b → (f a).1 = (f b).1 ∧ (f a).2.Alike S (f b).2
  spares : ∀ b : Bench, (f b).2.Alike (fun id => ¬ S id) b

namespace Within
variable {S : SwitchId → Prop} {α β γ : Type}

/-- To do nothing. -/
theorem pure (x : α) : Within S fun b => (x, b) := ⟨fun h => ⟨rfl, h⟩, fun b => .refl b⟩

/-- To do the same in other words. -/
theorem congr {f g : Bench → α × Bench} (hf : Within S f) (h : ∀ b, g b = f b) : Within S g :=
  funext h ▸ hf

/-- To do what a look at the switches tells to do. -/
theorem look {f : Bench → α × Bench} {v : Bench → γ}
    (hv : ∀ {a b : Bench}, a.Alike S b → v a = v b)
    (hcases : ∀ x, ∃ g, Within S g ∧ ∀ b, v b = x → f b = g b) : Within S f := by
  refine ⟨fun {a b} hab => ?_, fun b => ?_⟩
  · obtain ⟨g, hg, heq⟩ := hcases (v b)
    rw [heq a (hv hab), heq b rfl]
    exact hg.same hab
  · obtain ⟨g, hg, heq⟩ := hcases (v b)
    rw [heq b rfl]
    exact hg.spares b

/-- To do one thing after the other. -/
theorem bind {f : Bench → α × Bench} (hf : Within S f) (g : α → Bench → β × Bench)
    (hg : ∀ x, Within S (g x)) : Within S fun b => g (f b).1 (f b).2 := by
  refine ⟨fun {a b} hab => ?_, fun b => ((hg _).spares _).trans (hf.spares b)⟩
  obtain ⟨hresult, hafter⟩ := hf.same hab
  rw [hresult]
  exact (hg _).same hafter

theorem map {f : Bench → α × Bench} (hf : Within S f) (g : α → β) :
    Within S fun b => (g (f b).1, (f b).2) :=
  hf.bind (fun x b => (g x, b)) fun x => pure (g x)

section
variable {id : SwitchId} (hid : S id)
include hid

/-- To change what is kept of one switch. -/
theorem change (x : α) {f : Bench → Bench}
    (g : Option Model × Option Snapshot → Option Model × Option Snapshot)
    (hkept : ∀ b k, (f b).kept k = if k = id then g (b.kept id) else b.kept k)
    (hrest : ∀ b, (f b).bus.fallback = b.bus.fallback ∧ (f b).bus.scan = b.bus.scan) :
    Within S fun b => (x, f b) := by
  refine ⟨fun {a b} hab => ⟨rfl, fun k hk => ?_, ?_, ?_⟩,
    fun b => ⟨fun k hk => ?_, (hrest b).1, (hrest b).2⟩⟩
  · rw [hkept, hkept, hab.kept id hid, hab.kept k hk]
  · rw [(hrest a).1, (hrest b).1, hab.fallback]
  · rw [(hrest a).2, (hrest b).2, hab.scan]
  · have hne : k ≠ id := fun he => hk (he.symm ▸ hid)
    rw [hkept, if_neg hne]

theorem set (x : α) (s : Snapshot) : Within S fun b => (x, { b with bus := b.bus.set id s }) :=
  change hid x (fun kept => (kept.1, some s)) (fun b k => b.kept_set id k s) fun _ => ⟨rfl, rfl⟩

theorem keep (x : α) (m : Model) : Within S fun b => (x, b.keep id m) :=
  change hid x (fun kept => (some m, kept.2)) (fun b k => b.kept_keep id k m) fun _ => ⟨rfl, rfl⟩

theorem release (x : α) : Within S fun b => (x, b.release id) :=
  change hid x (fun kept => (kept.1, kept.2.map fun s : Snapshot => { s with isOpen := false }))
    (fun b k => b.kept_release id k) fun b => ⟨b.bus.fallback_update id _, b.bus.scan_update id _⟩

theorem openUp : Within S fun b => b.openUp id := by
  refine look (fun hab => hab.found? hid) fun found => ?_
  cases found with
  | none =>
    refine ⟨_, pure (.error (.cannotOpen id "no such device")), fun b hb => ?_⟩
    rw [Bench.openUp, Bus.opening_eq, hb]
  | some s =>
    cases hs : s.responsive with
    | true =>
      refine ⟨_, set hid (.ok s.model) { s with isOpen := true }, fun b hb => ?_⟩
      simp [Bench.openUp, Bus.opening_eq, hb, hs]
    | false =>
      refine ⟨_, pure (.error (.noResponse id)), fun b hb => ?_⟩
      simp [Bench.openUp, Bus.opening_eq, hb, hs]

/-- To keep the handle, if the switch was opened. -/
theorem keepOpened (r : Except SwitchError Model) : Within S fun b => match r with
    | .ok m => (Except.ok m, b.keep id m)
    | .error e => (.error e, b) := by
  cases r with
  | ok m => exact keep hid _ m
  | error e => exact pure _

theorem connect : Within S fun b => b.connect id := by
  refine look (fun hab => hab.isConnected hid) fun held => ?_
  cases held with
  | true =>
    refine ⟨_, pure (.error (.alreadyConnected id)), fun b hb => ?_⟩
    rw [b.connect_eq_openUp id, if_pos hb]
  | false =>
    refine ⟨_, (openUp hid).bind _ (keepOpened hid), fun b hb => ?_⟩
    rw [b.connect_eq_openUp id, if_neg (by simp [hb])]
    rcases b.openUp id with ⟨_ | _, _⟩ <;> rfl

theorem forget : Within S fun b => b.forget id := by
  refine look (fun hab => hab.isConnected hid) fun held => ?_
  cases held with
  | true =>
    refine ⟨_, change hid (.ok ()) (fun kept => (none, kept.2)) (fun b k => b.kept_forgotten id k)
      fun _ => ⟨rfl, rfl⟩, fun b hb => ?_⟩
    rw [Bench.forget, if_pos hb]
  | false =>
    refine ⟨_, pure (.error (.notConnected id)), fun b hb => ?_⟩
    rw [Bench.forget, if_neg (by simp [hb])]

/-- To close the switch, if its handle was given up. -/
theorem releaseForgotten (r : Except SwitchError Unit) : Within S fun b => match r with
    | .ok () => (Except.ok (), b.release id)
    | .error e => (.error e, b) := by
  cases r with
  | ok _ => exact release hid _
  | error e => exact pure _

theorem disconnect : Within S fun b => b.disconnect id :=
  ((forget hid).bind _ (releaseForgotten hid)).congr fun b => by
    unfold Bench.disconnect
    rcases b.forget id with ⟨_ | _, _⟩ <;> rfl

end

section
variable {c : Command} (hid : S c.id)
include hid

theorem carryOut : Within S fun b => b.carryOut c := by
  refine look (fun hab => hab.answering? hid) fun answering => ?_
  cases answering with
  | none => exact ⟨_, pure (.error (.noResponse c.id)), fun b hb => by rw [Bench.carryOut, hb]⟩
  | some s => exact ⟨_, set hid (.ok (c.act s).1) (c.act s).2, fun b hb => by rw [Bench.carryOut, hb]⟩

theorem order (h : c.isDevice = false) : Within S fun b => b.perform c := by
  refine look (fun hab => hab.refusal? hid) fun refusal => ?_
  cases refusal with
  | some e => exact ⟨_, pure (.error e), fun b hb => by rw [b.perform_eq_carryOut h, hb]⟩
  | none => exact ⟨_, carryOut hid, fun b hb => by rw [b.perform_eq_carryOut h, hb]⟩

end

/-- **A command is within its switch.** -/
theorem perform {c : Command} (hid : S c.id) : Within S fun b => b.perform c := by
  cases c with
  | connect id via baud => exact (connect hid).map _
  | disconnect id => exact (disconnect hid).map _
  | port _ _ | speed _ _ | read _ _ => exact order hid rfl

end Within

end Bench

end SwitchBench
