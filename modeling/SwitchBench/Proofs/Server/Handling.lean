import SwitchBench.Proofs.Switch.Locality

/-! How a request is handled.

A request takes several looks at the handles and the switches, and between them the requests
of others may be handled: `Stage` says how far one is, and `Stage.turn` takes it one look
further. What the answer is going to be does not change by a turn of its own
(`Stage.turn_outcome`). If a request names its switch, its turns and its answer are a matter of
that switch (`Stage.within_turn`, `Stage.within_outcome`). -/
namespace SwitchBench

/-- The switch that an order is for is the one that it is carried out on. -/
theorem Bench.Order.id_of_command? {order : Order} {id : SwitchId} {argument : Option (List Char)}
    {c : Command} (h : order.command? id argument = some c) : c.id = id := by
  cases order with
  | bare n => cases h; rfl
  | named k =>
    cases k with
    | switch | speed | read =>
      obtain ⟨_, -, rfl⟩ := Option.map_eq_some_iff.mp h
      rfl
    | status | volts | amps => cases h; rfl

/-! ### Requests that name their switch -/

namespace Request

/-- The request searches for attached switches. -/
def IsSearch (r : Request) : Prop :=
  r.category? = some .device ∧ r.cmd.name?.bind DeviceCommand.ofText? = some .search

instance (r : Request) : Decidable r.IsSearch := inferInstanceAs (Decidable (_ ∧ _))

/-- The request is about one of some switches, which it names. -/
structure IsAbout (S : SwitchId → Prop) (r : Request) : Prop where
  names : ∃ id, r.switch? = some id ∧ S id
  not_search : ¬ r.IsSearch

variable {S : SwitchId → Prop} {r : Request}

/-- What the request comes to is not a matter of the bench, -/
theorem IsAbout.command?_eq (h : r.IsAbout S) (a b : Bench) : a.command? r = b.command? r := by
  obtain ⟨id, hid, -⟩ := h.names
  unfold Bench.command? Bench.controlCommand? Bench.target
  rw [hid]

/-- and is for its switch. -/
theorem IsAbout.id_of_command? (h : r.IsAbout S) {b : Bench} {c : Command} (hc : b.command? r = some c) :
    S c.id := by
  obtain ⟨id, hid, hS⟩ := h.names
  suffices heq : c.id = id from heq ▸ hS
  unfold Bench.command? at hc
  split at hc
  · unfold Bench.deviceCommand? at hc
    rw [hid] at hc
    split at hc
    next heq => cases hc; exact (Option.some.inj heq).symm
    next heq => cases hc; exact (Option.some.inj heq).symm
    · cases hc
  · obtain ⟨order, -, horder⟩ := Option.bind_eq_some_iff.mp hc
    unfold Bench.target at horder
    rw [hid] at horder
    exact Bench.Order.id_of_command? horder
  · cases hc

/-- If it comes to nothing it is invalid. -/
theorem IsAbout.answer_of_none (h : r.IsAbout S) (limit : Nat) {b : Bench} (hc : b.command? r = none) :
    b.answer limit r = (.invalid, b) := by
  obtain ⟨id, hid, -⟩ := h.names
  unfold Bench.command? at hc
  unfold Bench.answer
  cases hcategory : r.category? with
  | none => rfl
  | some category =>
    rw [hcategory] at hc
    cases category with
    | device =>
      have hsearch : r.cmd.name?.bind DeviceCommand.ofText? ≠ some .search :=
        fun hcmd => h.not_search ⟨hcategory, hcmd⟩
      simp only [Bench.deviceCommand?, hid] at hc
      simp only [Bench.answerDevice, hid]
      cases hcmd : r.cmd.name?.bind DeviceCommand.ofText? with
      | none => rfl
      | some k =>
        rw [hcmd] at hc hsearch
        cases k with
        | search => exact absurd rfl hsearch
        | open' | close => cases hc
    | control =>
      have htarget : b.target r = .ok id := by rw [Bench.target, hid]
      simp only [Bench.controlCommand?] at hc
      simp only [Bench.answerControl]
      cases horder : Bench.order? r with
      | none => rfl
      | some order =>
        rw [horder, Option.bind_some, htarget] at hc
        rw [htarget]
        cases order with
        | named k => exact b.control_of_none hc
        | bare n => cases hc

/-- **Its answer is a matter of the switch that it names.** -/
theorem IsAbout.within_answer (h : r.IsAbout S) (limit : Nat) :
    Bench.Within S fun b => b.answer limit r := by
  refine .look (v := fun b => b.command? r) (fun _ => h.command?_eq _ _) fun command => ?_
  cases command with
  | none => exact ⟨_, .pure .invalid, fun b hb => h.answer_of_none limit hb⟩
  | some c =>
    by_cases hid : S c.id
    · exact ⟨_, (Bench.Within.perform hid).map c.response, fun b hb => b.answer_of_command? limit hb⟩
    · exact ⟨_, .pure .invalid, fun b hb => absurd (h.id_of_command? hb) hid⟩

end Request

/-! ### One request -/

/-- How far the handling of a request is. -/
inductive Stage where
  | asked (r : Request)
  /-- No handle of the switch is held, and the switch is still to be opened. -/
  | opening (id : SwitchId)
  /-- The switch is open, and its handle still to be kept. -/
  | keeping (id : SwitchId) (model : Model)
  /-- The handle is given up, and the switch still to be closed. -/
  | closing (id : SwitchId)
  /-- The order is not refused, and still to be put to its switch. -/
  | ordering (c : Command)
  | answered (response : Response)

namespace Stage

/-- The first look at the handles that a command takes. -/
def ofCommand (c : Command) (b : Bench) : Stage × Bench :=
  match c with
  | .connect id _ _ => (if b.isConnected id then .answered .fail else .opening id, b)
  | .disconnect id =>
    match b.forget id with
    | (.ok (), b) => (.closing id, b)
    | (.error _, b) => (.answered .fail, b)
  | .port .. | .speed .. | .read .. =>
    match b.refusal? c with
    | some e => (.answered (.ofResult (.error e)), b)
    | none => (.ordering c, b)

/-- One turn: a look at the handles or at the switches, with what follows from it. -/
def turn (limit : Nat) (stage : Stage) (b : Bench) : Stage × Bench :=
  match stage with
  | asked r =>
    match b.command? r with
    | some c => ofCommand c b
    | none => (.answered (b.answer limit r).1, (b.answer limit r).2)
  | opening id =>
    match b.openUp id with
    | (.ok m, b) => (.keeping id m, b)
    | (.error _, b) => (.answered .fail, b)
  | keeping id m => (.answered .success, b.keep id m)
  | closing id => (.answered .success, b.release id)
  | ordering c => (.answered (.ofResult (b.carryOut c).1), (b.carryOut c).2)
  | answered response => (.answered response, b)

/-- What the answer will be, and the bench then, if nothing comes in between any more. -/
def outcome (limit : Nat) (stage : Stage) (b : Bench) : Response × Bench :=
  match stage with
  | asked r => b.answer limit r
  | opening id =>
    match b.openUp id with
    | (.ok m, b) => (.success, b.keep id m)
    | (.error _, b) => (.fail, b)
  | keeping id m => (.success, b.keep id m)
  | closing id => (.success, b.release id)
  | ordering c => (.ofResult (b.carryOut c).1, (b.carryOut c).2)
  | answered response => (response, b)

/-- What is handled is about some switches. -/
def IsAbout (S : SwitchId → Prop) : Stage → Prop
  | asked r => r.IsAbout S
  | opening id | keeping id _ | closing id => S id
  | ordering c => S c.id
  | answered _ => True

/-- The response, once it is there. -/
def response? : Stage → Option Response
  | answered response => some response
  | _ => none

/-- How many turns are left at most. -/
def turnsLeft : Stage → Nat
  | asked _ => 3
  | opening _ => 2
  | keeping .. | closing _ | ordering _ => 1
  | answered _ => 0

section
variable (limit : Nat) (stage : Stage) (b : Bench)

theorem outcome_of_response? {stage : Stage} {b : Bench} {response : Response}
    (h : stage.response? = some response) : stage.outcome limit b = (response, b) := by
  cases stage <;> cases h
  rfl

theorem turnsLeft_eq_zero_iff : stage.turnsLeft = 0 ↔ stage.response?.isSome = true := by
  cases stage <;> simp [turnsLeft, response?]

theorem ofCommand_outcome (c : Command) : (ofCommand c b).1.outcome limit (ofCommand c b).2 =
    (c.response (b.perform c).1, (b.perform c).2) := by
  cases c with
  | connect id via baud =>
    dsimp only [ofCommand, Bench.perform]
    rw [b.connect_eq_openUp id]
    split
    · rfl
    · dsimp only [outcome]
      rcases b.openUp id with ⟨_ | _, _⟩ <;> rfl
  | disconnect id =>
    dsimp only [ofCommand, Bench.perform, Bench.disconnect]
    rcases b.forget id with ⟨_ | _, _⟩ <;> rfl
  | port id n | speed id mode | read id p =>
    rw [b.perform_eq_carryOut rfl]
    dsimp only [ofCommand]
    cases b.refusal? _ <;> rfl

/-- **A turn does not change what the answer will be.** -/
theorem turn_outcome : (stage.turn limit b).1.outcome limit (stage.turn limit b).2 =
    stage.outcome limit b := by
  cases stage with
  | asked r =>
    dsimp only [turn, outcome]
    cases hc : b.command? r with
    | none => rfl
    | some c =>
      rw [b.answer_of_command? limit hc]
      exact ofCommand_outcome limit b c
  | opening id =>
    dsimp only [turn, outcome]
    rcases b.openUp id with ⟨_ | _, _⟩ <;> rfl
  | keeping id m | closing id | ordering c | answered response => rfl

theorem turnsLeft_ofCommand (c : Command) : (ofCommand c b).1.turnsLeft ≤ 2 := by
  cases c with
  | connect id via baud =>
    dsimp only [ofCommand]
    split <;> simp [turnsLeft]
  | disconnect id =>
    dsimp only [ofCommand]
    rcases b.forget id with ⟨_ | _, _⟩ <;> simp [turnsLeft]
  | port _ _ | speed _ _ | read _ _ =>
    dsimp only [ofCommand]
    split <;> simp [turnsLeft]

/-- Every turn takes the handling further. -/
theorem turnsLeft_turn : (stage.turn limit b).1.turnsLeft ≤ stage.turnsLeft - 1 := by
  cases stage with
  | asked r =>
    dsimp only [turn]
    cases b.command? r with
    | none => exact Nat.zero_le _
    | some c => exact turnsLeft_ofCommand b c
  | opening id =>
    dsimp only [turn]
    rcases b.openUp id with ⟨_ | _, _⟩ <;> exact Nat.le_of_ble_eq_true rfl
  | keeping _ _ | closing _ | ordering _ | answered _ => exact Nat.zero_le _

end

section
variable {S : SwitchId → Prop} (limit : Nat)

/-- What begins with a command is a matter of its switch. -/
theorem within_ofCommand {c : Command} (h : S c.id) : Bench.Within S (ofCommand c) := by
  cases c with
  | connect id via baud =>
    exact .look (fun hab => hab.isConnected h) fun held =>
      ⟨_, .pure (if held then .answered .fail else .opening id), fun b hb => by rw [← hb]; rfl⟩
  | disconnect id =>
    have hid : S id := h
    refine ((Bench.Within.forget hid).map fun r =>
      r.toOption.elim (.answered .fail) fun _ => .closing id).congr fun b => ?_
    dsimp only [ofCommand]
    rcases b.forget id with ⟨_ | _, _⟩ <;> rfl
  | port _ _ | speed _ _ | read _ _ =>
    refine .look (fun hab => hab.refusal? h) fun refusal => ?_
    cases refusal with
    | some e => exact ⟨_, .pure (.answered (.ofResult (.error e))), fun b hb => by simp only [ofCommand, hb]⟩
    | none => exact ⟨_, .pure (.ordering _), fun b hb => by simp only [ofCommand, hb]; rfl⟩

theorem isAbout_ofCommand {c : Command} (h : S c.id) (b : Bench) : (ofCommand c b).1.IsAbout S := by
  cases c with
  | connect id via baud =>
    dsimp only [ofCommand]
    split
    · trivial
    · exact h
  | disconnect id =>
    dsimp only [ofCommand]
    rcases b.forget id with ⟨_ | _, _⟩
    · trivial
    · exact h
  | port _ _ | speed _ _ | read _ _ =>
    dsimp only [ofCommand]
    split
    · trivial
    · exact h

variable {stage : Stage} (h : stage.IsAbout S)
include h

/-- **A turn is a matter of the switches that the request is about**, -/
theorem within_turn : Bench.Within S (stage.turn limit) := by
  cases stage with
  | asked r =>
    refine .look (v := fun b => b.command? r) (fun _ => Request.IsAbout.command?_eq h _ _) fun command => ?_
    cases command with
    | none =>
      refine ⟨_, (Request.IsAbout.within_answer h limit).map .answered, fun b hb => ?_⟩
      simp only [turn, hb]
    | some c =>
      by_cases hid : S c.id
      · exact ⟨_, within_ofCommand hid, fun b hb => by simp only [turn, hb]⟩
      · exact ⟨_, .pure (.asked r), fun b hb => absurd (Request.IsAbout.id_of_command? h hb) hid⟩
  | opening id =>
    refine ((Bench.Within.openUp h).map fun r =>
      r.toOption.elim (.answered .fail) (.keeping id)).congr fun b => ?_
    dsimp only [turn]
    rcases b.openUp id with ⟨_ | _, _⟩ <;> rfl
  | keeping id m => exact .keep h _ m
  | closing id => exact .release h _
  | ordering c => exact (Bench.Within.carryOut h).map fun r => Stage.answered (.ofResult r)
  | answered response => exact .pure _

/-- and leaves it about them. -/
theorem isAbout_turn (b : Bench) : (stage.turn limit b).1.IsAbout S := by
  cases stage with
  | asked r =>
    dsimp only [turn]
    cases hc : b.command? r with
    | none => trivial
    | some c => exact isAbout_ofCommand (Request.IsAbout.id_of_command? h hc) b
  | opening id =>
    dsimp only [turn]
    rcases b.openUp id with ⟨_ | _, _⟩
    · trivial
    · exact h
  | keeping _ _ | closing _ | ordering _ | answered _ => trivial

/-- So is what the answer will be. -/
theorem within_outcome : Bench.Within S (stage.outcome limit) := by
  cases stage with
  | asked r => exact Request.IsAbout.within_answer h limit
  | opening id =>
    refine (((Bench.Within.openUp h).bind _ (Bench.Within.keepOpened h)).map fun r =>
      r.toOption.elim .fail fun _ => .success).congr fun b => ?_
    dsimp only [outcome]
    rcases b.openUp id with ⟨_ | _, _⟩ <;> rfl
  | keeping id m => exact .keep h _ m
  | closing id => exact .release h _
  | ordering c => exact (Bench.Within.carryOut h).map Response.ofResult
  | answered response => exact .pure _

end

end Stage

end SwitchBench
