import Mathlib.Data.List.Induction
import Mathlib.Logic.Function.Basic
import SwitchBench.Proofs.Switch.Consistency

/-! A bench that callers share.

A call of `connect` keeps the handles locked from the look-up until the handle is there,
and opens the switch in between. A call of `disconnect` keeps them locked only while it
gives up the handle, and closes the switch after that. In the meantime another caller can
connect the same switch, and the close then shuts a switch whose handle is held. A call that
nobody comes between does what it does on a bench that is not shared
(`SharedBench.turns_connect`, `SharedBench.turns_disconnect`). Once all
calls have returned, a handle is held for exactly the open switches unless that has
happened, with no disconnect of the switch since (`agree_iff_not_overtaken`). -/
namespace SwitchBench

/-- A switch is opened or nothing is changed. -/
theorem Bus.opening_cases (bus : Bus) (id : SwitchId) :
    (∃ s : Snapshot, bus.opening id = (.ok s.model, bus.set id { s with isOpen := true })) ∨
      ∃ e, bus.opening id = (.error e, bus) := by
  rw [opening_eq]
  cases bus.found? id with
  | none => exact .inr ⟨_, rfl⟩
  | some s =>
    cases hs : s.responsive with
    | true => exact .inl ⟨s, if_pos hs⟩
    | false => exact .inr ⟨_, if_neg (by simp [hs])⟩

namespace Bench

/-! ### Handles and open switches -/

/-- The switch is open. -/
def IsOpen (b : Bench) (id : SwitchId) : Prop := ∃ s, b.bus.snapshot? id = some s ∧ s.isOpen = true

section
variable (b : Bench) (id k : SwitchId)

theorem isOpen_opened (s : Snapshot) :
    IsOpen { b with bus := b.bus.set id { s with isOpen := true } } k ↔ k = id ∨ b.IsOpen k := by
  unfold IsOpen
  simp only [Bus.snapshot?_set]
  by_cases hk : k = id <;> simp [hk]

theorem isOpen_release : (b.release id).IsOpen k ↔ k ≠ id ∧ b.IsOpen k := by
  unfold IsOpen release Bus.close
  simp only [Bus.snapshot?_update]
  by_cases hk : k = id
  · simp [hk]
  · simp [hk]

theorem isConnected_kept (m : Model) : isConnected { b with handles := b.handles.set id m } k = true ↔
    k = id ∨ b.isConnected k = true := by
  unfold isConnected Roster.contains
  simp only [Roster.get?_set]
  by_cases hk : k = id <;> simp [hk]

theorem isConnected_given_up : isConnected { b with handles := b.handles.erase id } k = true ↔
    k ≠ id ∧ b.isConnected k = true := by
  unfold isConnected Roster.contains
  simp only [Roster.get?_erase]
  by_cases hk : k = id <;> simp [hk]

end

end Bench

/-! ### Calls -/

namespace SharedBench

/-- The lock on the handles, with how far the connect is that has it. -/
inductive Lock where
  | free
  /-- No handle of `id` is held, and the switch is still to be opened. -/
  | opening (caller : Nat) (id : SwitchId)
  /-- The switch is open, and its handle still to be kept. -/
  | keeping (caller : Nat) (id : SwitchId) (model : Model)

/-- One step of a call. -/
inductive Turn where
  /-- A connect locks the handles and looks whether one of the switch is held. -/
  | connect (caller : Nat) (id : SwitchId)
  /-- The connect that has the lock opens its switch, -/
  | openSwitch
  /-- and keeps the handle and unlocks. -/
  | keepHandle
  /-- A disconnect gives up the handle, with the handles locked no longer than that. -/
  | disconnect (caller : Nat) (id : SwitchId)
  /-- A disconnect closes its switch. -/
  | close (caller : Nat)

end SharedBench

/-- A bench that callers share. -/
structure SharedBench where
  bench : Bench
  lock : SharedBench.Lock
  /-- The switch that a caller has given up and is still to close. -/
  closing : Nat → Option SwitchId

namespace SharedBench

/-- Nobody calls. -/
def idle (b : Bench) : SharedBench := ⟨b, .free, fun _ => none⟩

/-- All calls have returned. -/
def Settled (x : SharedBench) : Prop := x.lock = .free ∧ ∀ k, x.closing k = none

/-- What a step comes to, if it can be taken. -/
def turn (x : SharedBench) : Turn → Option SharedBench
  | .connect k id =>
    match x.lock, x.closing k with
    | .free, none => if x.bench.isConnected id then some x else some { x with lock := .opening k id }
    | _, _ => none
  | .openSwitch =>
    match x.lock with
    | .opening k id =>
      match x.bench.bus.opening id with
      | (.ok m, bus) => some { x with bench := { x.bench with bus }, lock := .keeping k id m }
      | (.error _, bus) => some { x with bench := { x.bench with bus }, lock := .free }
    | _ => none
  | .keepHandle =>
    match x.lock with
    | .keeping _ id m =>
      some { x with bench := { x.bench with handles := x.bench.handles.set id m }, lock := .free }
    | _ => none
  | .disconnect k id =>
    match x.lock, x.closing k with
    | .free, none =>
      match x.bench.forget id with
      | (.ok (), bench) => some { x with bench, closing := Function.update x.closing k (some id) }
      | (.error _, bench) => some { x with bench }
    | _, _ => none
  | .close k => (x.closing k).map fun id =>
    { x with bench := x.bench.release id, closing := Function.update x.closing k none }

/-- The steps of all calls, in the order in which they are taken. -/
def turns (x : SharedBench) : List Turn → Option SharedBench
  | [] => some x
  | t :: rest => (x.turn t).bind fun x => turns x rest

theorem turns_append (x : SharedBench) (a b : List Turn) :
    x.turns (a ++ b) = (x.turns a).bind fun y => y.turns b := by
  induction a generalizing x with
  | nil => rfl
  | cons t rest ih =>
    rw [List.cons_append, turns, turns]
    cases x.turn t with
    | none => rfl
    | some y => exact ih y

/-- **A call that nobody comes between** connects the switch, -/
theorem turns_connect {x : SharedBench} {k : Nat} (h : x.Settled) {id : SwitchId} {m : Model}
    (hok : (x.bench.connect id).1 = .ok m) :
    x.turns [.connect k id, .openSwitch, .keepHandle] = some { x with bench := (x.bench.connect id).2 } := by
  unfold Bench.connect at hok ⊢
  cases hheld : x.bench.isConnected id with
  | true => simp [hheld] at hok
  | false =>
    cases hopening : x.bench.bus.opening id with
    | mk result bus =>
      cases result with
      | error e => simp [hheld, hopening] at hok
      | ok m' => simp [turns, turn, h.1, h.2 k, hheld, hopening]

/-- or disconnects it. -/
theorem turns_disconnect {x : SharedBench} {k : Nat} (h : x.Settled) {id : SwitchId}
    (hok : (x.bench.disconnect id).1 = .ok ()) :
    x.turns [.disconnect k id, .close k] = some { x with bench := (x.bench.disconnect id).2 } := by
  unfold Bench.disconnect Bench.forget at hok ⊢
  cases hheld : x.bench.isConnected id with
  | false => simp [hheld] at hok
  | true => simp [turns, turn, h.1, h.2 k, hheld, Bench.forget]

/-! ### One step -/

/-- What a step does. -/
inductive Takes (x : SharedBench) : Turn → SharedBench → Prop
  | refused {k id} : Takes x (.connect k id) x
  | looked {k id} (free : x.lock = .free) (missing : x.bench.isConnected id = false) :
    Takes x (.connect k id) { x with lock := .opening k id }
  | opened {k id} {s : Snapshot} (h : x.lock = .opening k id) : Takes x .openSwitch
    { x with
      bench := { x.bench with bus := x.bench.bus.set id { s with isOpen := true } }
      lock := .keeping k id s.model }
  | failed {k id} (h : x.lock = .opening k id) : Takes x .openSwitch { x with lock := .free }
  | kept {k id m} (h : x.lock = .keeping k id m) : Takes x .keepHandle
    { x with bench := { x.bench with handles := x.bench.handles.set id m }, lock := .free }
  | missed {k id} (free : x.lock = .free) (missing : x.bench.isConnected id = false) :
    Takes x (.disconnect k id) x
  | forgotten {k id} (free : x.lock = .free) (away : x.closing k = none) : Takes x (.disconnect k id)
    { x with
      bench := { x.bench with handles := x.bench.handles.erase id }
      closing := Function.update x.closing k (some id) }
  | closed {k id} (h : x.closing k = some id) : Takes x (.close k)
    { x with bench := x.bench.release id, closing := Function.update x.closing k none }

theorem takes_turn {x y : SharedBench} {t : Turn} (h : x.turn t = some y) : x.Takes t y := by
  cases t with
  | connect k id =>
    simp only [turn] at h
    split at h
    next hfree _ =>
      cases hheld : x.bench.isConnected id <;> rw [hheld] at h <;> cases h
      · exact .looked hfree hheld
      · exact .refused
    · cases h
  | openSwitch =>
    simp only [turn] at h
    split at h
    next k id hlock =>
      rcases x.bench.bus.opening_cases id with ⟨s, hs⟩ | ⟨e, he⟩
      · rw [hs] at h; cases h; exact .opened hlock
      · rw [he] at h; cases h; exact .failed hlock
    · cases h
  | keepHandle =>
    simp only [turn] at h
    split at h
    next hlock => cases h; exact .kept hlock
    · cases h
  | disconnect k id =>
    simp only [turn, Bench.forget] at h
    split at h
    next hfree haway =>
      cases hheld : x.bench.isConnected id <;> simp only [hheld] at h <;> cases h
      · exact .missed hfree hheld
      · exact .forgotten hfree haway
    · cases h
  | close k =>
    obtain ⟨id, hid, rfl⟩ := Option.map_eq_some_iff.mp h
    exact .closed hid

/-! ### What a step means for the switches -/

/-- A handle of the switch is held or about to be. -/
def IsTaken (x : SharedBench) (id : SwitchId) : Prop :=
  x.bench.isConnected id = true ∨ ∃ k m, x.lock = .keeping k id m

/-- The switch is given up and about to be closed. -/
def IsLeft (x : SharedBench) (id : SwitchId) : Prop := ∃ k, x.closing k = some id

/-- Without a handle about to be kept, taken is held. -/
theorem isTaken_of_free {x : SharedBench} (h : ∀ k i m, x.lock ≠ .keeping k i m) (id : SwitchId) :
    x.IsTaken id ↔ x.bench.isConnected id = true := by
  simp [IsTaken, h]

theorem isTaken_of_keeping {x : SharedBench} {k : Nat} {i : SwitchId} {m : Model}
    (h : x.lock = .keeping k i m) (id : SwitchId) :
    x.IsTaken id ↔ id = i ∨ x.bench.isConnected id = true := by
  constructor
  · rintro (hheld | ⟨l, n, hlock⟩)
    · exact .inr hheld
    · cases h.symm.trans hlock
      exact .inl rfl
  · rintro (rfl | hheld)
    · exact .inr ⟨k, m, h⟩
    · exact .inl hheld

/-- What every step preserves. -/
structure Kept (x : SharedBench) : Prop where
  /-- Of a switch that is being connected no handle is held. -/
  missing : ∀ k id, x.lock = .opening k id ∨ (∃ m, x.lock = .keeping k id m) →
    x.bench.isConnected id = false
  /-- A switch that is open is taken or about to be closed. -/
  opened : ∀ id, x.bench.IsOpen id → x.IsTaken id ∨ x.IsLeft id

/-- What a step means for the switches. -/
inductive Means (x y : SharedBench) : Turn → Prop
  /-- None is opened, closed or given up. -/
  | nothing {t} (close : ∀ k, t ≠ .close k) (disconnect : ∀ k id, t ≠ .disconnect k id)
    (taken : ∀ i, y.IsTaken i ↔ x.IsTaken i) (opened : ∀ i, y.bench.IsOpen i ↔ x.bench.IsOpen i)
    (left : ∀ i, x.IsLeft i → y.IsLeft i) : Means x y t
  | opens {id} (new : ¬ x.IsTaken id) (taken : ∀ i, y.IsTaken i ↔ i = id ∨ x.IsTaken i)
    (opened : ∀ i, y.bench.IsOpen i ↔ i = id ∨ x.bench.IsOpen i)
    (left : ∀ i, x.IsLeft i → y.IsLeft i) : Means x y .openSwitch
  | givesUp {k id} (taken : ∀ i, y.IsTaken i ↔ i ≠ id ∧ x.IsTaken i)
    (opened : ∀ i, y.bench.IsOpen i ↔ x.bench.IsOpen i)
    (left : ∀ i, x.IsLeft i ∨ i = id ∧ x.IsTaken i → y.IsLeft i) : Means x y (.disconnect k id)
  | closes {k id} (h : x.closing k = some id) (taken : ∀ i, y.IsTaken i ↔ x.IsTaken i)
    (opened : ∀ i, y.bench.IsOpen i ↔ i ≠ id ∧ x.bench.IsOpen i)
    (left : ∀ i, i ≠ id → x.IsLeft i → y.IsLeft i) : Means x y (.close k)

theorem Kept.means {x y : SharedBench} (h : x.Kept) {t : Turn} (ht : x.turn t = some y) : x.Means y t := by
  cases takes_turn ht with
  | refused => exact .nothing (by simp) (by simp) (fun _ => .rfl) (fun _ => .rfl) fun _ => id
  | @looked k i hfree _ =>
    have hother : ∀ j, x.IsTaken j ↔ x.bench.isConnected j = true := isTaken_of_free (by simp [hfree])
    refine .nothing (by simp) (by simp) (fun j => ?_) (fun _ => .rfl) fun _ => id
    rw [hother]
    exact isTaken_of_free (by simp) j
  | @opened k i s hlock =>
    have hother : ∀ j, x.IsTaken j ↔ x.bench.isConnected j = true := isTaken_of_free (by simp [hlock])
    refine .opens ?_ (fun j => ?_) (x.bench.isOpen_opened i · s) fun _ => id
    · rw [hother, h.missing k i (.inl hlock)]
      exact Bool.false_ne_true
    · rw [hother]
      exact isTaken_of_keeping rfl j
  | failed hlock =>
    have hother : ∀ j, x.IsTaken j ↔ x.bench.isConnected j = true := isTaken_of_free (by simp [hlock])
    refine .nothing (by simp) (by simp) (fun j => ?_) (fun _ => .rfl) fun _ => id
    rw [hother]
    exact isTaken_of_free (by simp) j
  | @kept k i m hlock =>
    refine .nothing (by simp) (by simp) (fun j => ?_) (fun _ => .rfl) fun _ => id
    rw [isTaken_of_keeping hlock, isTaken_of_free (by simp)]
    exact x.bench.isConnected_kept i j m
  | @missed k i hfree hmissing =>
    have hnone : ¬ x.IsTaken i := by simp [IsTaken, hfree, hmissing]
    refine .givesUp (fun j => ⟨fun hj => ⟨fun he => hnone (he ▸ hj), hj⟩, And.right⟩) (fun _ => .rfl) ?_
    rintro j (hj | ⟨rfl, hj⟩)
    · exact hj
    · exact absurd hj hnone
  | @forgotten k i hfree haway =>
    refine .givesUp (fun j => ?_) (fun _ => .rfl) ?_
    · rw [isTaken_of_free (by simp [hfree]), isTaken_of_free (by simp [hfree])]
      exact x.bench.isConnected_given_up i j
    · rintro j (⟨l, hl⟩ | ⟨rfl, -⟩)
      · have hne : l ≠ k := fun he => by rw [he, haway] at hl; cases hl
        exact ⟨l, (Function.update_of_ne hne ..).trans hl⟩
      · exact ⟨k, Function.update_self ..⟩
  | @closed k i hk =>
    refine .closes hk (fun _ => .rfl) (x.bench.isOpen_release i) ?_
    rintro j hj ⟨l, hl⟩
    have hne : l ≠ k := fun he => hj (by rw [he, hk] at hl; exact (Option.some.inj hl).symm)
    exact ⟨l, (Function.update_of_ne hne ..).trans hl⟩

/-! ### What every step preserves -/

theorem kept_idle {b : Bench} (h : b.Consistent) : (idle b).Kept where
  missing k id hk := by rcases hk with hk | ⟨m, hk⟩ <;> cases hk
  opened id hopen := .inl (.inl ((h id).isOpen.mpr hopen))

/-- Handles are kept by nobody but the connect that has the lock, which it then gives back. -/
theorem Kept.missing_turn {x y : SharedBench} (h : x.Kept) {t : Turn} (ht : x.turn t = some y) {k : Nat}
    {id : SwitchId} (hk : y.lock = .opening k id ∨ ∃ m, y.lock = .keeping k id m) :
    y.bench.isConnected id = false := by
  cases takes_turn ht with
  | refused | missed | closed => exact h.missing k id hk
  | looked _ hmissing =>
    rcases hk with hk | ⟨m, hk⟩ <;> cases hk
    exact hmissing
  | opened hlock =>
    rcases hk with hk | ⟨m, hk⟩ <;> cases hk
    exact h.missing k id (.inl hlock)
  | failed | kept => rcases hk with hk | ⟨m, hk⟩ <;> cases hk
  | forgotten hfree => rcases hk with hk | ⟨m, hk⟩ <;> cases hfree.symm.trans hk

/-- **Every step keeps** what is to be kept. -/
theorem Kept.turn {x y : SharedBench} (h : x.Kept) {t : Turn} (ht : x.turn t = some y) : y.Kept := by
  refine ⟨fun _ _ => h.missing_turn ht, fun i hi => ?_⟩
  cases h.means ht with
  | nothing _ _ htaken hopened hleft =>
    exact (h.opened i ((hopened i).mp hi)).imp (htaken i).mpr (hleft i)
  | opens _ htaken hopened hleft =>
    rcases (hopened i).mp hi with hid | hold
    · exact .inl ((htaken i).mpr (.inl hid))
    · exact (h.opened i hold).imp (fun ht => (htaken i).mpr (.inr ht)) (hleft i)
  | @givesUp _ id htaken hopened hleft =>
    rcases h.opened i ((hopened i).mp hi) with ht | hl
    · by_cases hid : i = id
      · exact .inr (hleft i (.inr ⟨hid, ht⟩))
      · exact .inl ((htaken i).mpr ⟨hid, ht⟩)
    · exact .inr (hleft i (.inl hl))
  | closes _ htaken hopened hleft =>
    obtain ⟨hid, hold⟩ := (hopened i).mp hi
    exact (h.opened i hold).imp (htaken i).mpr (hleft i hid)

theorem Kept.turns {x y : SharedBench} (h : x.Kept) {ts : List Turn} (hts : x.turns ts = some y) :
    y.Kept := by
  induction ts generalizing x with
  | nil => cases hts; exact h
  | cons t rest ih =>
    obtain ⟨z, hz, hrest⟩ := Option.bind_eq_some_iff.mp hts
    exact ih (h.turn hz) hrest

/-! ### Switches that are overtaken -/

/-- The switch is closed when it has been taken again, and no disconnect of it comes after that. -/
def Overtaken (x : SharedBench) (id : SwitchId) (ts : List Turn) : Prop :=
  ∃ before k after y, ts = before ++ .close k :: after ∧ x.turns before = some y ∧
    y.closing k = some id ∧ y.IsTaken id ∧ ∀ j, .disconnect j id ∉ after

/-- One more step overtakes the switch or leaves it so. -/
theorem overtaken_append {x y : SharedBench} {ts : List Turn} (hts : x.turns ts = some y)
    (id : SwitchId) (t : Turn) : x.Overtaken id (ts ++ [t]) ↔
      (x.Overtaken id ts ∧ ∀ j, t ≠ .disconnect j id) ∨
        ∃ k, t = .close k ∧ y.closing k = some id ∧ y.IsTaken id := by
  constructor
  · rintro ⟨before, k, after, z, hsplit, hz, hk, htaken, hafter⟩
    rcases List.eq_nil_or_concat after with rfl | ⟨after, u, rfl⟩
    · obtain ⟨rfl, hu⟩ := List.append_inj' hsplit rfl
      cases hu
      cases hts.symm.trans hz
      exact .inr ⟨k, rfl, hk, htaken⟩
    · rw [List.concat_eq_append, ← List.cons_append, ← List.append_assoc] at hsplit
      obtain ⟨rfl, hu⟩ := List.append_inj' hsplit rfl
      cases hu
      refine .inl ⟨⟨before, k, after, z, rfl, hz, hk, htaken, fun j hj => hafter j ?_⟩, fun j hj => hafter j ?_⟩
      · simp [hj]
      · simp [hj]
  · rintro (⟨⟨before, k, after, z, rfl, hz, hk, htaken, hafter⟩, ht⟩ | ⟨k, rfl, hk, htaken⟩)
    · refine ⟨before, k, after ++ [t], z, by simp, hz, hk, htaken, fun j hj => ?_⟩
      rcases List.mem_append.mp hj with hj | hj
      · exact hafter j hj
      · exact ht j (List.mem_singleton.mp hj).symm
    · exact ⟨ts, k, [], y, rfl, hts, hk, htaken, fun _ => List.not_mem_nil⟩

/-- **A switch is overtaken exactly while its handle is held or about to be and it is closed.** -/
theorem overtaken_iff {b : Bench} (hb : b.Consistent) {ts : List Turn} {y : SharedBench}
    (hts : (idle b).turns ts = some y) (id : SwitchId) :
    (idle b).Overtaken id ts ↔ y.IsTaken id ∧ ¬ y.bench.IsOpen id := by
  -- From the last step: whether a close overtakes is seen in the state that it comes upon.
  induction ts using List.reverseRecOn generalizing y with
  | nil =>
    cases hts
    constructor
    · rintro ⟨before, k, after, y, hsplit, -⟩
      exact absurd hsplit (by simp)
    · rintro ⟨htaken, hclosed⟩
      rw [isTaken_of_free (by simp [idle])] at htaken
      exact absurd ((hb id).isOpen.mp htaken) hclosed
  | append_singleton ts t ih =>
    rw [turns_append] at hts
    obtain ⟨z, hz, hlast⟩ := Option.bind_eq_some_iff.mp hts
    have hturn : z.turn t = some y := by simpa [turns] using hlast
    rw [overtaken_append hz, ih hz]
    cases ((kept_idle hb).turns hz).means hturn with
    | nothing hclose hdisconnect htaken hopened _ =>
      rw [htaken, hopened]
      simp [hclose, hdisconnect]
    | @opens i hnew htaken hopened _ =>
      rw [htaken, hopened]
      by_cases hid : id = i
      · subst hid
        simp [hnew]
      · simp [hid]
    | @givesUp k i htaken hopened _ =>
      rw [htaken, hopened]
      by_cases hid : id = i
      · simp [hid]
      · simp [hid, Ne.symm hid]
    | @closes k i hk htaken hopened _ =>
      rw [htaken, hopened]
      by_cases hid : id = i
      · subst hid
        simpa [hk] using fun (h : z.IsTaken id) _ => h
      · simp [hid, hk, Ne.symm hid]

/-- **A handle is held for exactly the open switches** once all calls have returned, but for the
switches that were overtaken. -/
theorem agree_iff_not_overtaken {b : Bench} (hb : b.Consistent) {ts : List Turn} {y : SharedBench}
    (hts : (idle b).turns ts = some y) (hsettled : y.Settled) (id : SwitchId) :
    (y.bench.isConnected id = true ↔ y.bench.IsOpen id) ↔ ¬ (idle b).Overtaken id ts := by
  have htaken : y.IsTaken id ↔ y.bench.isConnected id = true := isTaken_of_free (by simp [hsettled.1]) id
  have hleft : ¬ y.IsLeft id := by
    rintro ⟨k, hk⟩
    cases (hsettled.2 k).symm.trans hk
  have hopened : y.bench.IsOpen id → y.bench.isConnected id = true := fun hopen =>
    htaken.mp ((((kept_idle hb).turns hts).opened id hopen).resolve_right hleft)
  rw [overtaken_iff hb hts, htaken, not_and, not_not]
  exact ⟨Iff.mp, fun h => ⟨h, hopened⟩⟩

/-- A switch that is connected again before it is closed. -/
def overtaking (id : SwitchId) : List Turn :=
  [.connect 0 id, .openSwitch, .keepHandle, .disconnect 0 id, .connect 1 id, .openSwitch, .keepHandle, .close 0]

theorem turns_overtaking_com7 : let b := Bench.idle (.listed [(⟨"COM7"⟩, .m3141)])
    ∃ y, (idle b).turns (overtaking ⟨"COM7"⟩) = some y ∧ y.Settled ∧
      y.bench = (b.connect ⟨"COM7"⟩).2.release ⟨"COM7"⟩ := by
  intro b
  refine ⟨⟨(b.connect ⟨"COM7"⟩).2.release ⟨"COM7"⟩, .free,
    Function.update (Function.update (fun _ => none) 0 (some ⟨"COM7"⟩)) 0 none⟩, rfl, ⟨rfl, fun k => ?_⟩, rfl⟩
  simp [Function.update_apply]

/-- Its handle is held once all calls have returned, and the switch is closed. -/
theorem held_not_open_com7 : let b := Bench.idle (.listed [(⟨"COM7"⟩, .m3141)])
    ∃ y, (idle b).turns (overtaking ⟨"COM7"⟩) = some y ∧ y.Settled ∧
      ¬ (y.bench.isConnected ⟨"COM7"⟩ = true ↔ y.bench.IsOpen ⟨"COM7"⟩) := by
  intro b
  obtain ⟨y, hturns, hsettled, hbench⟩ := turns_overtaking_com7
  refine ⟨y, hturns, hsettled, fun h => ?_⟩
  rw [hbench, Bench.isOpen_release] at h
  exact (h.mp (by decide)).1 rfl

/-- It has been overtaken. -/
theorem agree_iff_not_overtaken_com7 : let b := Bench.idle (.listed [(⟨"COM7"⟩, .m3141)])
    ∃ y, (idle b).turns (overtaking ⟨"COM7"⟩) = some y ∧ y.Settled ∧
      ((y.bench.isConnected ⟨"COM7"⟩ = true ↔ y.bench.IsOpen ⟨"COM7"⟩) ↔
        ¬ (idle b).Overtaken ⟨"COM7"⟩ (overtaking ⟨"COM7"⟩)) := by
  intro b
  obtain ⟨y, hturns, hsettled, -⟩ := turns_overtaking_com7
  have hconsistent : b.Consistent := Bench.consistent_idle (.listed [(⟨"COM7"⟩, .m3141)])
  exact ⟨y, hturns, hsettled, agree_iff_not_overtaken hconsistent hturns hsettled ⟨"COM7"⟩⟩

end SharedBench

end SwitchBench
