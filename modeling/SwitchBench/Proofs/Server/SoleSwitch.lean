import SwitchBench.Proofs.Server.Handling
import SwitchBench.Proofs.Text.Words

/-! Control requests that name no switch.

Whatever has become of a bench, the switches in use on it are known by trimmed names, since a handle is
only kept for a switch that somebody named (`Bench.Reached`). So a control request without a switch is the
same as one that names the only switch in use, and where none is the only one it is refused and changes
nothing. A request that names a switch leaves every other one alone. Together: such a request reaches the
one switch it can mean, or none (**`Bench.answer_without_switch`**). -/
namespace SwitchBench

namespace SwitchId

/-- What was trimmed is trimmed already. -/
theorem ofText_ofText (s : String) : ofText (ofText s).text = ofText s := by
  simp only [ofText, String.toList_ofList, (Text.trim_trimmed s.toList).trim_eq]

/-- Blanks name no switch. -/
theorem ofText_of_blank {s : String} (h : ∀ c ∈ s.toList, Text.isBlank c = true) : (ofText s).text = "" := by
  have htrim : Text.trim s.toList = [] := by
    cases hcs : Text.trim s.toList with
    | nil => rfl
    | cons c rest =>
      have hmem : c ∈ Text.trim s.toList := by rw [hcs]; exact List.mem_cons_self ..
      have hhead := (Text.trim_trimmed s.toList).head c (by rw [hcs]; rfl)
      rw [h c (Text.mem_of_mem_trim hmem)] at hhead
      cases hhead
  rw [ofText, htrim, String.ofList_nil]

end SwitchId

/-! ### What a request asks for -/

namespace Request
variable {r : Request}

/-- The request names no switch: its field is absent or blank. -/
def NamesNone (r : Request) : Prop := ∀ s, r.port = some s → ∀ c ∈ s.toList, Text.isBlank c = true

theorem NamesNone.switch?_eq (h : r.NamesNone) : r.switch? = none := by
  unfold switch?
  cases hport : r.port with
  | none => rfl
  | some s =>
    have hempty := SwitchId.ofText_of_blank (h s hport)
    rw [Option.map_some, Option.filter_some, if_neg]
    simp [hempty]

/-- A switch that is named is named by a text. -/
theorem exists_of_switch? {id : SwitchId} (h : r.switch? = some id) : ∃ s, id = .ofText s := by
  obtain ⟨hmap, -⟩ := Option.filter_eq_some_iff.mp h
  obtain ⟨s, -, rfl⟩ := Option.map_eq_some_iff.mp hmap
  exact ⟨s, rfl⟩

/-- A request that is given the name of a switch names it, unless the name is empty. -/
theorem switch?_naming (r : Request) (s : String) : (r.naming (SwitchId.ofText s).text).switch? =
    if (SwitchId.ofText s).text = "" then none else some (.ofText s) := by
  show (some (SwitchId.ofText (SwitchId.ofText s).text)).filter _ = _
  rw [SwitchId.ofText_ofText, Option.filter_some]
  by_cases hempty : (SwitchId.ofText s).text = "" <;> simp [hempty]

/-- What a control request can ask for: a command by its name, or over USB a port by its number. -/
inductive IsOrder (r : Request) : Prop
  | named {text : String} {k : ControlCommand} (hcmd : r.cmd = .name text)
    (hk : ControlCommand.ofText? text = some k)
  | number {n : Int64} (husb : r.interface? = some .usb) (hcmd : r.cmd = .number n)
    (hn : 0 ≤ n.toInt ∧ n.toInt ≤ 255)
  | digits {text : String} {port : UInt8} (husb : r.interface? = some .usb) (hcmd : r.cmd = .name text)
    (hport : Text.byte? (Text.trim text.toList) = some port)

theorem isSome_order?_iff : (Bench.order? r).isSome = true ↔ r.IsOrder := by
  unfold Bench.order?
  constructor
  · intro h
    split at h
    next k hk =>
      obtain ⟨text, hname, hk⟩ := Option.bind_eq_some_iff.mp hk
      cases hcmd : r.cmd with
      | number n => rw [hcmd] at hname; cases hname
      | name text' =>
        rw [hcmd] at hname
        cases hname
        exact .named hcmd hk
    next =>
      split at h
      next husb =>
        rw [Option.isSome_map] at h
        obtain ⟨port, hport⟩ := Option.isSome_iff_exists.mp h
        cases hcmd : r.cmd with
        | name text => rw [hcmd] at hport; exact .digits husb hcmd hport
        | number n =>
          rw [hcmd, CommandToken.port?] at hport
          split at hport
          next hn => exact .number husb hcmd hn
          next => cases hport
      next => cases h
  · intro h
    cases h with
    | named hcmd hk => simp [hcmd, CommandToken.name?, hk]
    | number husb hcmd hn => simp [hcmd, CommandToken.name?, CommandToken.port?, husb, hn]
    | digits husb hcmd hport =>
      rw [hcmd]
      dsimp only [CommandToken.name?, CommandToken.port?, Option.bind_some]
      split
      · rfl
      · rw [if_pos husb, hport]
        rfl

end Request

namespace Bench

/-! ### The switches in use -/

/-- What can have become of a bench that was idle: the switches do what they please, and handles are
kept for switches that were named, and given up. -/
inductive Reached : Bench → Prop
  | idle (bus : Bus) : Reached (idle bus)
  | world {b : Bench} (bus : Bus) (h : Reached b) : Reached { b with bus }
  | keep {b : Bench} (s : String) (m : Model) (h : Reached b) :
    Reached { b with handles := b.handles.set (.ofText s) m }
  | giveUp {b : Bench} (id : SwitchId) (h : Reached b) : Reached { b with handles := b.handles.erase id }

theorem mem_connected_iff {b : Bench} {id : SwitchId} : id ∈ b.connected ↔ b.isConnected id = true :=
  (b.handles.mem_ids_iff).trans Option.isSome_iff_exists.symm

/-- **A switch in use was named.** -/
theorem Reached.exists_name {b : Bench} (h : Reached b) {id : SwitchId} (hid : b.isConnected id = true) :
    ∃ s, id = .ofText s := by
  induction h with
  | idle bus => cases hid
  | world bus _ ih => exact ih hid
  | @keep b s m _ ih =>
    unfold isConnected Roster.contains at hid
    rw [Roster.get?_set] at hid
    split at hid
    next heq => exact ⟨s, heq⟩
    next => exact ih hid
  | @giveUp b k _ ih =>
    unfold isConnected Roster.contains at hid
    rw [Roster.get?_erase] at hid
    split at hid
    next => cases hid
    next => exact ih hid

/-- A command to a switch that was named leads on, -/
theorem Reached.perform {b : Bench} (h : Reached b) {c : Command} (hc : ∃ s, c.id = .ofText s) :
    Reached (b.perform c).2 := by
  obtain ⟨s, hs⟩ := hc
  cases c with
  | connect id via baud =>
    obtain rfl : id = .ofText s := hs
    show Reached (b.connect (.ofText s)).2
    unfold connect
    split
    · exact h
    · rcases b.bus.opening (.ofText s) with ⟨_ | m, bus⟩
      · exact h.world bus
      · exact (h.world bus).keep s m
  | disconnect id =>
    show Reached (b.disconnect id).2
    unfold disconnect forget
    by_cases hid : b.isConnected id = true
    · rw [if_pos hid]
      exact (h.giveUp id).world _
    · rw [if_neg hid]
      exact h
  | port id n | speed id mode | read id p =>
    rw [b.perform_order rfl]
    rcases b.command_cases _ _ _ with ⟨e, he⟩ | ⟨m, x, -, -, -, he⟩
    · rw [he]
      exact h
    · rw [he]
      exact h.world _

/-- A control request is for a switch that it names or that is in use. -/
theorem id_of_target {b : Bench} {r : Request} {id : SwitchId} (h : b.target r = .ok id) :
    r.switch? = some id ∨ (r.switch? = none ∧ b.connected = [id]) := by
  unfold target at h
  split at h
  next hswitch => exact .inl (hswitch.trans (congrArg some (Except.ok.inj h)))
  next hswitch hconnected =>
    rw [Except.ok.inj h] at hconnected
    exact .inr ⟨hswitch, hconnected⟩
  next => cases h

/-- The switch of a command that a request comes to was named, by the request or before. -/
theorem Reached.exists_name_of_command? {b : Bench} (h : Reached b) {r : Request} {c : Command}
    (hc : b.command? r = some c) : ∃ s, c.id = .ofText s := by
  unfold command? at hc
  split at hc
  · unfold deviceCommand? at hc
    split at hc
    next hid => cases hc; exact Request.exists_of_switch? hid
    next hid => cases hc; exact Request.exists_of_switch? hid
    next => cases hc
  · obtain ⟨order, -, horder⟩ := Option.bind_eq_some_iff.mp hc
    split at horder
    next id htarget =>
      rw [Order.id_of_command? horder]
      obtain hid | ⟨-, hid⟩ := id_of_target htarget
      · exact Request.exists_of_switch? hid
      · exact h.exists_name (mem_connected_iff.mp (hid ▸ List.mem_singleton_self id))
    next => cases horder
  · cases hc

/-- and so does any request that is answered. -/
theorem Reached.answer {b : Bench} (h : Reached b) (limit : Nat) (r : Request) : Reached (b.answer limit r).2 := by
  cases hc : b.command? r with
  | none => rwa [b.answer_of_none limit hc]
  | some c =>
    rw [b.answer_of_command? limit hc]
    exact h.perform (h.exists_name_of_command? hc)

/-- The switch is in use, and no other is. -/
def IsSole (b : Bench) (id : SwitchId) : Prop := ∀ k, b.isConnected k = true ↔ k = id

/-- **The listing shows one switch exactly if it is the only one in use.** -/
theorem connected_eq_singleton_iff {b : Bench} {id : SwitchId} : b.connected = [id] ↔ b.IsSole id := by
  unfold IsSole
  simp only [← mem_connected_iff]
  constructor
  · intro h k
    rw [h, List.mem_singleton]
  · intro h
    have hordered : b.connected.Pairwise (· < ·) := b.handles.ids_ordered
    cases hconnected : b.connected with
    | nil =>
      have hid := (h id).mpr rfl
      rw [hconnected] at hid
      cases hid
    | cons k rest =>
      rw [hconnected] at h hordered
      obtain rfl : k = id := (h k).mp (List.mem_cons_self ..)
      cases rest with
      | nil => rfl
      | cons k' more =>
        obtain rfl : k' = k := (h k').mp (List.mem_cons_of_mem _ (List.mem_cons_self ..))
        exact absurd ((List.pairwise_cons.mp hordered).1 k' (List.mem_cons_self ..)) (SwitchId.lt_irrefl k')

section
variable {b : Bench} {r : Request}

/-- A request without a switch is for the sole one, as it is if it names it. -/
theorem target_of_isSole {id : SwitchId} (hb : Reached b) (hnone : r.switch? = none) (hid : b.IsSole id) :
    b.target r = .ok id ∧ b.target (r.naming id.text) = .ok id := by
  have hconnected := connected_eq_singleton_iff.mpr hid
  obtain ⟨s, rfl⟩ := hb.exists_name ((hid id).mpr rfl)
  refine ⟨by rw [target, hnone, hconnected], ?_⟩
  have hnaming := r.switch?_naming s
  unfold target
  split at hnaming
  · rw [hnaming, hconnected]
  · rw [hnaming]

/-- Where no switch is the sole one, it is for none. -/
theorem target_of_not_isSole (hnone : r.switch? = none) (hid : ∀ id, ¬b.IsSole id) :
    b.target r = .error (.notConnected ⟨"<unspecified>"⟩) := by
  unfold target
  split
  next hswitch => cases hnone.symm.trans hswitch
  next hconnected => exact absurd (connected_eq_singleton_iff.mp hconnected) (hid _)
  next => rfl

/-- **Other switches are left alone** by a request that names one. -/
theorem kept_answer_of_ne {id : SwitchId} (hid : r.switch? = some id) (limit : Nat) {k : SwitchId} (hk : k ≠ id) :
    (b.answer limit r).2.kept k = b.kept k := by
  by_cases hsearch : r.IsSearch
  · have hnone : b.command? r = none := by
      rw [command?, hsearch.1]
      simp only [deviceCommand?, hsearch.2]
    rw [b.answer_of_none limit hnone]
  · have habout : r.IsAbout (· = id) := ⟨⟨id, hid, rfl⟩, hsearch⟩
    exact ((habout.within_answer limit).spares b).kept k hk

end

/-- **A control request without a switch reaches the sole one, or none**, on whatever bench that can have
come about. If a switch is the only one in use, the request is answered like one that names it and leaves
the same bench. Otherwise the bench stays as it is, and what can be asked for is refused for want of a
switch, anything else as invalid. And no request that names a switch changes what is kept of another. -/
theorem answer_without_switch {b : Bench} (hb : Reached b) (limit : Nat) (r : Request) :
    (r.category? = some .control → r.NamesNone →
      (∀ id, b.IsSole id → b.answer limit r = b.answer limit (r.naming id.text)) ∧
      ((∀ id, ¬b.IsSole id) → (b.answer limit r).2 = b ∧
        (r.IsOrder → (b.answer limit r).1 = .fault ⟨.notConnected, "switch <unspecified> is not connected"⟩) ∧
        (¬r.IsOrder → (b.answer limit r).1 = .invalid))) ∧
    ∀ id, r.switch? = some id → ∀ k ≠ id, (b.answer limit r).2.kept k = b.kept k := by
  refine ⟨fun hcontrol hnone => ⟨fun id hid => ?_, fun hid => ?_⟩, fun id hid k hk => ?_⟩
  · obtain ⟨htarget, htarget'⟩ := target_of_isSole hb hnone.switch?_eq hid
    have hcontrol' : (r.naming id.text).category? = some .control := hcontrol
    simp only [answer, hcontrol, hcontrol', answerControl, htarget, htarget']
    rfl
  · have htarget := target_of_not_isSole hnone.switch?_eq hid
    have hanswer : b.answer limit r = b.answerControl r := by rw [answer, hcontrol]
    rw [hanswer, answerControl, htarget, ← Request.isSome_order?_iff]
    cases order? r with
    | none => exact ⟨rfl, fun h => Bool.noConfusion h, fun _ => rfl⟩
    | some order => exact ⟨rfl, fun _ => rfl, fun h => absurd rfl h⟩
  · exact kept_answer_of_ne hid limit hk

/-- The one switch that was opened is told its port without being named. -/
theorem answer_without_switch_com7 :
    let b := ((idle (.permissive .m3141)).answer 1000 ((Request.device .open').naming "COM7")).2
    let r := (Request.control .serial .switch).saying "2"
    b.Reached ∧ b.IsSole ⟨"COM7"⟩ ∧ b.answer 1000 r = b.answer 1000 (r.naming "COM7") ∧
      (b.answer 1000 r).2.kept ⟨"COM7"⟩ = (some .m3141, some ⟨.m3141, 2, .ss1, true, true⟩) := by
  intro b r
  have hb : b.Reached := (Reached.idle (.permissive .m3141)).answer 1000 _
  have hsole : b.IsSole ⟨"COM7"⟩ := connected_eq_singleton_iff.mp (by decide)
  have hcontrol : r.category? = some .control := by decide
  have hnone : r.NamesNone := fun s hs => by cases hs
  exact ⟨hb, hsole, ((answer_without_switch hb 1000 r).1 hcontrol hnone).1 ⟨"COM7"⟩ hsole, by decide⟩

end Bench

end SwitchBench
