import SwitchBench.Dispatch.Command
import SwitchBench.Proofs.Switch.Names
import SwitchBench.Proofs.Text.Spellings
import SwitchBench.Server.Router

/-! Spellings of a request.

A server reads the fields of a request as words: the category, the interface, the command and
its argument whatever their case and the blanks around them, the switch whatever the blanks
around it. So a request may be spelled anew, and a port can be asked for in three ways and a
reading in two, and nothing but the words of the request decides what is answered and done. -/
namespace SwitchBench

open Text

/-! ### Words -/

theorem recognised?_congr {α : Type} (name : α → String) (all : List α) {a b : String}
    (h : Respelled a.toList b.toList) : recognised? name all a = recognised? name all b := by
  simp only [recognised?, named?, respelled_iff.mp h]

theorem named?_congr {α : Type} (name : α → String) (all : List α) {a b : List Char} (h : lower a = lower b) :
    named? name all a = named? name all b := by
  simp only [named?, h]

/-- Both fields are there and are related, or neither is there. -/
def BothOrNeither (R : List Char → List Char → Prop) : Option String → Option String → Prop :=
  Option.Rel fun a b => R a.toList b.toList

theorem BothOrNeither.map_eq {R : List Char → List Char → Prop} {α : Type} {f : String → α}
    {x y : Option String}
    (h : BothOrNeither R x y) (hf : ∀ a b : String, R a.toList b.toList → f a = f b) : x.map f = y.map f := by
  cases h with
  | some h => exact congrArg some (hf _ _ h)
  | none => rfl

theorem BothOrNeither.bind_eq {R : List Char → List Char → Prop} {α : Type} {f : String → Option α}
    {x y : Option String} (h : BothOrNeither R x y) (hf : ∀ a b : String, R a.toList b.toList → f a = f b) :
    x.bind f = y.bind f := by
  cases h with
  | some h => exact hf _ _ h
  | none => rfl

/-! ### Requests -/

/-- A command is spelled anew if it is a name, and kept if it is a number. -/
inductive CommandToken.Respelled : CommandToken → CommandToken → Prop
  | number (n : Int64) : Respelled (.number n) (.number n)
  | name {a b : String} (h : Text.Respelled a.toList b.toList) : Respelled (.name a) (.name b)

/-- A request is spelled anew. -/
structure Request.Respelled (r t : Request) : Prop where
  ctype : Text.Respelled r.ctype.toList t.ctype.toList
  cmd : r.cmd.Respelled t.cmd
  itype : BothOrNeither Text.Respelled r.itype t.itype
  port : BothOrNeither Repadded r.port t.port
  baud : r.baud = t.baud
  stat : BothOrNeither Text.Respelled r.stat t.stat

theorem CommandToken.Respelled.bind_name?_eq {c d : CommandToken} (h : c.Respelled d) {α : Type}
    (name : α → String)
    (all : List α) : c.name?.bind (recognised? name all) = d.name?.bind (recognised? name all) := by
  cases h with
  | number n => rfl
  | name h => exact recognised?_congr name all h

theorem CommandToken.Respelled.port?_eq {c d : CommandToken} (h : c.Respelled d) : c.port? = d.port? := by
  cases h with
  | number n => rfl
  | name h => exact byte?_congr (respelled_iff.mp h)

namespace Request.Respelled
variable {r t : Request} (h : r.Respelled t)
include h

theorem category?_eq : r.category? = t.category? := recognised?_congr _ _ h.ctype

theorem interface?_eq : r.interface? = t.interface? := h.itype.bind_eq fun _ _ => recognised?_congr _ _

theorem switch?_eq : r.switch? = t.switch? := by
  unfold Request.switch?
  rw [h.port.map_eq fun a b hab => show SwitchId.ofText a = SwitchId.ofText b by
    rw [SwitchId.ofText, SwitchId.ofText, repadded_iff.mp hab]]

theorem argument?_eq : r.argument?.map lower = t.argument?.map lower := by
  simp only [Request.argument?, Option.map_map]
  exact h.stat.map_eq fun _ _ hab => respelled_iff.mp hab

theorem order?_eq : Bench.order? r = Bench.order? t := by
  have hnamed : r.cmd.name?.bind ControlCommand.ofText? = t.cmd.name?.bind ControlCommand.ofText? :=
    h.cmd.bind_name?_eq _ _
  simp only [Bench.order?, hnamed, h.interface?_eq, h.cmd.port?_eq]

theorem target_eq (b : Bench) : b.target r = b.target t := by
  simp only [Bench.target, h.switch?_eq]

end Request.Respelled

namespace Bench
variable (b : Bench)

/-- An argument is read whatever the case of its letters. -/
theorem control_congr (id : SwitchId) (c : ControlCommand) {x y : Option (List Char)}
    (h : x.map lower = y.map lower) : b.control id c x = b.control id c y := by
  have hread : ∀ {α : Type} {f : List Char → Option α}, (∀ v w, lower v = lower w → f v = f w) →
      x.bind f = y.bind f := by
    intro α f hf
    cases x with
    | none =>
      cases y with
      | none => rfl
      | some w => cases h
    | some v =>
      cases y with
      | none => cases h
      | some w => exact hf v w (Option.some.inj h)
  cases c with
  | switch => simp only [control, hread fun _ _ => byte?_congr]
  | speed => simp only [control, hread (f := Speed.ofWord?) fun _ _ => named?_congr _ _]
  | read => simp only [control, hread (f := Parameter.ofWord?) fun _ _ => named?_congr _ _]
  | status | volts | amps => rfl

/-- **A request spelled anew is answered alike.** -/
theorem answer_congr (limit : Nat) {r t : Request} (h : r.Respelled t) : b.answer limit r = b.answer limit t := by
  have hdevice : b.answerDevice limit r = b.answerDevice limit t := by
    have hnamed : r.cmd.name?.bind DeviceCommand.ofText? = t.cmd.name?.bind DeviceCommand.ofText? :=
      h.cmd.bind_name?_eq _ _
    simp only [answerDevice, hnamed, h.switch?_eq]
  have hcontrol : b.answerControl r = b.answerControl t := by
    simp only [answerControl, h.order?_eq, h.target_eq b, b.control_congr _ _ h.argument?_eq]
  simp only [answer, h.category?_eq, hdevice, hcontrol]

/-! ### Several ways to ask -/

section
variable {r : Request} (limit : Nat) (hctype : r.ctype = Category.control.name)
include hctype

/-- A control request by name is answered by its command on its switch, -/
theorem answer_of_named {c : ControlCommand} (hcmd : r.cmd = .name c.name) : b.answer limit r =
    match b.target r with
    | .error e => (.fault (.ofError e), b)
    | .ok id => b.control id c r.argument? := by
  have hcategory : r.category? = some .control := by rw [Request.category?, hctype, Category.ofText?_name]
  have horder : order? r = some (.named c) := by
    rw [order?, hcmd, CommandToken.name?, Option.bind_some, ControlCommand.ofText?_name]
  cases htarget : b.target r <;> simp only [answer, hcategory, answerControl, horder, htarget]

/-- and one by the number of a port by connecting the port. -/
theorem answer_of_bare {n : UInt8} (horder : order? r = some (.bare n)) : b.answer limit r =
    match b.target r with
    | .error e => (.fault (.ofError e), b)
    | .ok id => respond (b.setPort id n) := by
  have hcategory : r.category? = some .control := by rw [Request.category?, hctype, Category.ofText?_name]
  cases htarget : b.target r <;> simp only [answer, hcategory, answerControl, horder, htarget]

end

/-- No command goes by a number. -/
theorem ofText?_decimal (n : Nat) : ControlCommand.ofText? (String.ofList (decimal n)) = none := by
  obtain ⟨c, rest, hdigits⟩ := List.exists_cons_of_ne_nil (decimal_ne_nil n)
  have hdigit : c.isDigit = true := isDigit_of_mem_decimal (hdigits ▸ List.mem_cons_self ..)
  rw [ControlCommand.ofText?, recognised?, named?, String.toList_ofList, (decimal_solid n).trimmed.trim_eq,
    lower_decimal, hdigits, List.find?_eq_none]
  intro k _ hk
  -- Every name begins with a letter.
  have hhead : (lower k.name.toList).head? = some c := by rw [beq_iff_eq.mp hk]; rfl
  cases k <;> cases hhead <;> cases hdigit

section
variable {r : Request} {n : UInt8} (hitype : r.itype = some Interface.usb.name)
include hitype

/-- What is no command asks over USB for the port that it numbers. -/
theorem order?_of_port (hname : r.cmd.name?.bind ControlCommand.ofText? = none) (hport : r.cmd.port? = some n) :
    order? r = some (.bare n) := by
  have husb : r.interface? = some .usb := by
    rw [Request.interface?, hitype, Option.bind_some, Interface.ofText?_name]
  simp only [order?, hname, husb, hport, if_true, Option.map_some]

theorem order?_of_number (hcmd : r.cmd = .number (.ofNat n.toNat)) : order? r = some (.bare n) := by
  have hlt := n.toNat_lt
  have hvalue : (Int64.ofNat n.toNat).toInt = n.toNat := Int64.toInt_ofNat_of_lt (by omega)
  refine order?_of_port hitype (by rw [hcmd]; rfl) ?_
  rw [hcmd, CommandToken.port?, hvalue, if_pos (by omega), Int.toNat_natCast, UInt8.ofNat_toNat]

theorem order?_of_digits (hcmd : r.cmd = .name (String.ofList (decimal n.toNat))) :
    order? r = some (.bare n) := by
  refine order?_of_port hitype ?_ ?_ <;> rw [hcmd]
  · rw [CommandToken.name?, Option.bind_some, ofText?_decimal]
  · rw [CommandToken.port?, String.toList_ofList, (decimal_solid n.toNat).trimmed.trim_eq, byte?_decimal]

end

/-- A switch is switched to the port that its number's digits name. -/
theorem control_switch (id : SwitchId) (n : UInt8) {r : Request}
    (hstat : r.stat = some (String.ofList (decimal n.toNat))) :
    b.control id .switch r.argument? = respond (b.setPort id n) := by
  have hread : r.argument?.bind byte? = some n := by
    rw [Request.argument?, hstat, Option.map_some, Option.bind_some, String.toList_ofList,
      (decimal_solid n.toNat).trimmed.trim_eq, byte?_decimal]
  simp only [control, hread]

/-- A parameter is read that goes by its name. -/
theorem control_read (id : SwitchId) (p : Parameter) {r : Request} (hstat : r.stat = some p.name) :
    b.control id .read r.argument? = respond (b.read id p) := by
  have hread : r.argument?.bind Parameter.ofWord? = some p := by
    rw [Request.argument?, hstat, Option.map_some, Option.bind_some, p.name_solid.trimmed.trim_eq,
      Parameter.ofWord?_name]
  simp only [control, hread]

/-- A parameter but the version has a command of its name, -/
theorem name_reading {p : Parameter} (hp : p ≠ .version) : (Command.reading p).name = p.name := by
  cases p with
  | version => exact absurd rfl hp
  | status | volts | amps => rfl

/-- which reads it whatever its argument. -/
theorem control_reading {p : Parameter} (hp : p ≠ .version) (id : SwitchId) (x : Option (List Char)) :
    b.control id (Command.reading p) x = respond (b.read id p) := by
  cases p with
  | version => exact absurd rfl hp
  | status | volts | amps => rfl

/-- **Whatever way a request is spelled and a port or a reading is asked for, the answer is the
same**, and so is the bench after it. A request may be spelled anew. Whichever switch it names,
or if it names none, a port may be asked for over USB by its number or by the digits of its
number, or with the command `switch`; and a reading may be asked for with the command `read` or
with the command of its own name. -/
theorem answer_any_spelling (limit : Nat) :
    (∀ r t : Request, r.Respelled t → b.answer limit r = b.answer limit t) ∧
      (∀ (n : UInt8) (r s t : Request),
        let control := Category.control.name
        let usb := some Interface.usb.name
        let digits := String.ofList (decimal n.toNat)
        let byNumber : Request := { r with ctype := control, itype := usb, cmd := .number (.ofNat n.toNat) }
        let byDigits : Request := { s with ctype := control, itype := usb, cmd := .name digits, port := r.port }
        let switch : Request := { t with
          ctype := control, cmd := .name ControlCommand.switch.name, port := r.port, stat := some digits }
        b.answer limit byDigits = b.answer limit byNumber ∧ b.answer limit switch = b.answer limit byNumber) ∧
      ∀ p : Parameter, p ≠ .version → ∀ r s : Request,
        let control := Category.control.name
        let byRead : Request := { r with
          ctype := control, cmd := .name ControlCommand.read.name, stat := some p.name }
        let byName : Request := { s with ctype := control, cmd := .name p.name, port := r.port }
        b.answer limit byRead = b.answer limit byName := by
  refine ⟨fun r t h => b.answer_congr limit h, ?_, ?_⟩
  · intro n r s t control usb digits byNumber byDigits switch
    rw [b.answer_of_bare limit (r := byNumber) rfl (order?_of_number rfl rfl),
      b.answer_of_bare limit (r := byDigits) rfl (order?_of_digits rfl rfl),
      b.answer_of_named limit (r := switch) (c := .switch) rfl rfl]
    have hdigits : b.target byDigits = b.target byNumber := rfl
    have hswitch : b.target switch = b.target byNumber := rfl
    rw [hdigits, hswitch]
    refine ⟨rfl, ?_⟩
    cases b.target byNumber with
    | error e => rfl
    | ok id => exact b.control_switch id n rfl
  · intro p hp r s control byRead byName
    rw [b.answer_of_named limit (r := byRead) (c := .read) rfl rfl,
      b.answer_of_named limit (r := byName) (c := Command.reading p) rfl (by rw [name_reading hp])]
    have htarget : b.target byName = b.target byRead := rfl
    rw [htarget]
    cases b.target byRead with
    | error e => rfl
    | ok id => exact (b.control_read id p rfl).trans (b.control_reading hp id _).symm

/-- A port that is asked for in capitals and among blanks. -/
theorem answer_any_spelling_com7 :
    let b : Bench := ((idle (.listed [(⟨"COM7"⟩, .m3141)])).connect ⟨"COM7"⟩).2
    let r : Request := ⟨"control", .name "switch", none, some "COM7", none, some "2"⟩
    let t : Request := ⟨" Control", .name "SWITCH\t", none, some " COM7 ", none, some " 2"⟩
    r.Respelled t ∧ (b.answer 5000 r).1.text? = some "success" ∧ b.answer 5000 r = b.answer 5000 t := by
  intro b r t
  have hrespelled : r.Respelled t :=
    ⟨respelled_iff.mpr (by decide), .name (respelled_iff.mpr (by decide)), .none,
      .some (repadded_iff.mpr (by decide)), rfl, .some (respelled_iff.mpr (by decide))⟩
  exact ⟨hrespelled, by decide, (b.answer_any_spelling 5000).1 r t hrespelled⟩

end Bench

end SwitchBench
