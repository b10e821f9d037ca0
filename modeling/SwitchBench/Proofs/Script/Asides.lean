import Mathlib.Logic.Relation
import SwitchBench.Proofs.Script.Accounts
import SwitchBench.Script.Safety

/-! What does not matter to safe switching.

A script is edited: a line that reads, that marks a count or the end, or that is for the serial console
comes in or goes out, a port line is given a speed or loses it, a delay is split into two or two are made
one (`Script.Exchange`). None of these changes what the rules of safe switching look at, since the runs of
activity of what follows are all that is left of it (`Safety.runs_append_congr`) and a delay runs into the
next one the same whether it comes in one piece or in two (`Safety.before_delay_delay`). So the check
reports the same of both scripts, the alias and the rule included (**`Script.violation?_edited`**). -/
namespace SwitchBench

namespace Safety

/-! ### Activity -/

/-- Two delays in a row are one of the length of both. -/
theorem before_delay_delay {a b c : Nat} (hsum : a + b = c) (hc : c ≤ longestDelay) (rest : List Activity) :
    Activity.before (.delay a) (Activity.before (.delay b) rest) = Activity.before (.delay c) rest := by
  have hjoined : min (a + b) longestDelay = c := by omega
  cases rest with
  | nil => simp [Activity.before, hjoined]
  | cons x more =>
    cases x with
    | port n => simp [Activity.before, hjoined]
    | delay y =>
      have hrun : min (a + min (b + y) longestDelay) longestDelay = min (c + y) longestDelay := by omega
      simp [Activity.before, hrun]

theorem runs_delay_delay {a b c : UInt64} (hsum : a.toNat + b.toNat = c.toNat) (rest : List Step) :
    runs (.delay a :: .delay b :: rest) = runs (.delay c :: rest) := by
  have hc : c.toNat ≤ longestDelay := Nat.le_of_lt_succ c.toNat_lt
  simp only [runs, before_delay_delay hsum hc]

/-- Steps of other kinds do not matter. -/
theorem runs_append_other {steps : List Step} (h : ∀ st ∈ steps, st.isSwitching = false) (rest : List Step) :
    runs (steps ++ rest) = runs rest := by
  induction steps with
  | nil => rfl
  | cons st steps ih =>
    obtain ⟨hst, hsteps⟩ := List.forall_mem_cons.mp h
    rw [← ih hsteps]
    cases st <;> first | rfl | cases hst

/-- **The runs of what follows** are all of it that the runs of the whole depend on. -/
theorem runs_append_congr (front : List Step) {rest rest' : List Step} (h : runs rest = runs rest') :
    runs (front ++ rest) = runs (front ++ rest') := by
  induction front with
  | nil => exact h
  | cons st front ih => cases st <;> simp only [List.cons_append, runs, ih]

end Safety

/-! ### Lines -/

/-- An opcode that has nothing to do with switching. -/
def Opcode.isAside : Opcode → Bool
  | read | cycles | serial | finish => true
  | switch | main | port | delay => false

namespace Script

/-- A line that is no comment is opened by an opcode. -/
structure Instructs (l : List Char) (o : Opcode) (rest : List Char) : Prop where
  comment : (Text.trim l).head? ≠ some '#'
  opcode : Opcode.ofWord? (Text.splitFirst (Text.trim l)).1 = some o
  rest : (Text.splitFirst (Text.trim l)).2 = rest

theorem Instructs.line {l rest : List Char} {o : Opcode} (h : Instructs l o rest) (c : Context) :
    c.line l = c.instruction o rest := by
  rw [c.line_of_opcode h.comment h.opcode, h.rest]

/-- What only counts in the main part does not count before it. -/
theorem Instructs.line_before_main {l rest : List Char} {o : Opcode} (h : Instructs l o rest)
    (ho : o.needsMain = true) {c : Context} (hmain : c.inMain = false) :
    c.line l = .error (.beforeMain o.name) := by
  rw [h.line]
  unfold Context.instruction
  rw [ho, hmain]
  rfl

section
variable {l rest : List Char} {c : Context} (hmain : c.inMain = true)
include hmain

/-- In the main part a port line counts if it makes sense, -/
theorem Instructs.port_line (h : Instructs l .port rest) :
    c.line l = (c.portSteps rest).map fun steps => (c, steps) := by
  rw [h.line, Context.instruction, hmain]
  rfl

/-- and so does a delay. -/
theorem Instructs.delay_line (h : Instructs l .delay rest) :
    c.line l = (Context.delaySteps rest).map fun steps => (c, steps) := by
  rw [h.line, Context.instruction, hmain]
  rfl

end

/-- Lines that may stand for one another in a script that binds `as`. -/
inductive Exchange (as : Aliases) : List (List Char) → List (List Char) → Prop
  /-- A line that has nothing to do with switching may be there or not. -/
  | aside {l rest : List Char} {o : Opcode} (hl : Instructs l o rest) (ho : o.isAside = true) : Exchange as [] [l]
  /-- A port line may give a speed if the model of its switch has speeds. -/
  | speed {l fast rest more target label digits word : List Char} {mode : Speed} {b : Binding}
    (hl : Instructs l .port rest) (hfast : Instructs fast .port more) (hrest : Text.words rest = [target])
    (hmore : Text.words more = [target, word]) (hmode : Speed.ofWord? word = some mode)
    (hlabel : Text.cutLast? '.' target = some (label, digits)) (hb : as.get? (.ofList label) = some b)
    (hspeed : b.model.hasSpeed = true) : Exchange as [l] [fast]
  /-- A delay may be made of two. -/
  | delay {l first second whole part part' : List Char} {a b c : UInt64} (hl : Instructs l .delay whole)
    (hfirst : Instructs first .delay part) (hsecond : Instructs second .delay part')
    (hwhole : Context.delaySteps whole = .ok [.delay c]) (hpart : Context.delaySteps part = .ok [.delay a])
    (hpart' : Context.delaySteps part' = .ok [.delay b]) (hsum : a.toNat + b.toNat = c.toNat) :
    Exchange as [l] [first, second]

/-- A script with some lines in the place of others. -/
inductive Edited (x y : List Char) : Prop
  | exchange (before old new after : List (List Char)) (hx : Text.lines x = before ++ (old ++ after))
    (hy : Text.lines y = before ++ (new ++ after))
    (h : Exchange (Reading.ofText x).sequence.aliases old new)

end Script

/-! ### Accounts -/

namespace Account
variable {t u : Account} {l : List Char}

/-- Two accounts mean the same for the lines to come, and switch alike. -/
structure SwitchesAs (t u : Account) : Prop where
  context : t.context = u.context
  runs : ∀ rest, Safety.runs (t.steps ++ rest) = Safety.runs (u.steps ++ rest)

theorem SwitchesAs.refl (t : Account) : SwitchesAs t t := ⟨rfl, fun _ => rfl⟩

/-- A line that is accepted switches as other lines do that add steps in its place. -/
theorem SwitchesAs.of_steps {c : Context} {steps steps' : List Step} (ht : t.context.line l = .ok (c, steps))
    (hcontext : u.context = c) (hu : u.steps = t.steps ++ steps')
    (hruns : ∀ rest, Safety.runs (steps ++ rest) = Safety.runs (steps' ++ rest)) : SwitchesAs (t.line l) u := by
  obtain ⟨hc, hsteps⟩ := line_of_ok ht
  refine ⟨hc.trans hcontext.symm, fun rest => ?_⟩
  rw [hsteps, hu, List.append_assoc, List.append_assoc]
  exact Safety.runs_append_congr t.steps (hruns rest)

/-- **The check does not tell them apart**, whatever lines follow. -/
theorem SwitchesAs.violation?_eq (h : SwitchesAs t u) (ls : List (List Char)) {p q : Sequence}
    (hp : (t.lines ls).Gives p) (hq : (u.lines ls).Gives q) : p.violation? = q.violation? := by
  obtain ⟨htsteps, htaliases⟩ := lines_eq t 1 ls
  obtain ⟨husteps, hualiases⟩ := lines_eq u 1 ls
  have haliases : p.aliases = q.aliases := by
    rw [← hp.aliases, ← hq.aliases, htaliases, hualiases, h.context]
  have hruns : Safety.runs p.steps = Safety.runs q.steps := by
    rw [← hp.steps, ← hq.steps, htsteps, husteps, h.context]
    exact h.runs _
  unfold Sequence.violation?
  rw [haliases, hruns]

end Account

namespace Script
open Account (SwitchesAs)

variable {c d : Context}

/-- What has nothing to do with switching adds no step that switches. -/
theorem other_of_accepts {o : Opcode} (ho : o.isAside = true) {rest : List Char} {steps : List Step}
    (h : c.Accepts rest d steps o) : d = c ∧ ∀ st ∈ steps, st.isSwitching = false := by
  cases o with
  | switch | main | port | delay => cases ho
  | read =>
    obtain ⟨-, hd, hsteps⟩ := h
    obtain ⟨_, _, _, _, -, -, -, rfl⟩ := Context.readSteps_eq_ok_iff.mp hsteps
    exact ⟨hd, List.forall_mem_singleton.mpr rfl⟩
  | cycles =>
    obtain ⟨hd, hsteps⟩ := h
    obtain ⟨_, _, -, -, -, rfl⟩ := Context.cycleSteps_eq_ok_iff.mp hsteps
    exact ⟨hd, List.forall_mem_singleton.mpr rfl⟩
  | serial =>
    obtain ⟨-, hd, hsteps⟩ := h
    obtain ⟨_, -, -, rfl⟩ := Context.serialSteps_eq_ok_iff.mp hsteps
    exact ⟨hd, List.forall_mem_singleton.mpr rfl⟩
  | finish =>
    obtain ⟨hd, rfl⟩ := h
    exact ⟨hd, List.forall_mem_singleton.mpr rfl⟩

/-- A port line with a speed is accepted exactly if it is without it, and selects and connects the same. -/
theorem portSteps_speed {rest more target label digits word : List Char} {mode : Speed}
    (hrest : Text.words rest = [target]) (hmore : Text.words more = [target, word])
    (hmode : Speed.ofWord? word = some mode) (hlabel : Text.cutLast? '.' target = some (label, digits))
    (hspeed : ∀ b, c.aliases.get? (.ofList label) = some b → b.model.hasSpeed = true) :
    (∃ n, c.portSteps rest = .ok [.select (.ofList label), .port n] ∧
        c.portSteps more = .ok [.select (.ofList label), .speed mode, .port n]) ∨
      ∃ p p', c.portSteps rest = .error p ∧ c.portSteps more = .error p' := by
  cases hport : c.portSteps rest with
  | ok steps =>
    obtain ⟨target', label', digits', b, n, hlabel', hb, hn, haccepts, hsteps⟩ :=
      Context.portSteps_eq_ok_iff.mp hport
    obtain ⟨hwords, rfl⟩ | ⟨_, _, hwords, -⟩ := hsteps
    · obtain rfl : target = target' := List.singleton_inj.mp (hrest.symm.trans hwords)
      obtain ⟨rfl, rfl⟩ := Prod.mk.inj (Option.some.inj (hlabel.symm.trans hlabel'))
      refine .inl ⟨n, rfl, Context.portSteps_eq_ok_iff.mpr ?_⟩
      exact ⟨target, label, digits, b, n, hlabel, hb, hn, haccepts,
        .inr ⟨word, mode, hmore, hmode, hspeed b hb, rfl⟩⟩
    · cases hrest.symm.trans hwords
  | error p =>
    cases hfast : c.portSteps more with
    | error p' => exact .inr ⟨p, p', rfl, rfl⟩
    | ok steps =>
      obtain ⟨target', label', digits', b, n, hlabel', hb, hn, haccepts, hsteps⟩ :=
        Context.portSteps_eq_ok_iff.mp hfast
      obtain ⟨hwords, -⟩ | ⟨_, _, hwords, -⟩ := hsteps
      · cases hmore.symm.trans hwords
      · obtain ⟨rfl, -⟩ := List.cons.inj (hmore.symm.trans hwords)
        have hok := Context.portSteps_eq_ok_iff.mpr
          ⟨target, label', digits', b, n, hlabel', hb, hn, haccepts, .inl ⟨hrest, rfl⟩⟩
        cases hport.symm.trans hok

/-- **Lines that stand for one another** switch alike, wherever they come. -/
theorem Exchange.switchesAs {as : Aliases} {old new : List (List Char)} (h : Exchange as old new) {t : Account}
    (hmore : t.context.aliases.entries <+: as.entries) : SwitchesAs (t.lines old) (t.lines new) := by
  cases h with
  | @aside l rest o hl ho =>
    show SwitchesAs t (t.line l)
    cases hline : t.context.line l with
    | error p =>
      rw [Account.line_of_error hline]
      exact .refl t
    | ok r =>
      obtain ⟨d, steps⟩ := r
      obtain ⟨hcontext, hsteps⟩ := Account.line_of_ok hline
      rw [hl.line] at hline
      obtain ⟨rfl, hother⟩ := other_of_accepts ho (Context.instruction_eq_ok_iff.mp hline)
      refine ⟨hcontext.symm, fun rest => ?_⟩
      rw [hsteps, List.append_assoc]
      exact Safety.runs_append_congr t.steps (Safety.runs_append_other hother rest).symm
  | @speed l fast rest more target label digits word mode b hl hfast hrest hwords hmode hlabel hb hspeed =>
    show SwitchesAs (t.line l) (t.line fast)
    -- An alias that is bound where the line stands is bound to the same switch in the end.
    have hfits : ∀ b, t.context.aliases.get? (.ofList label) = some b → b.model.hasSpeed = true := by
      intro b' hb'
      obtain rfl : b = b' := Option.some.inj (hb.symm.trans (Aliases.get?_mono hmore hb'))
      exact hspeed
    cases hmain : t.context.inMain with
    | false =>
      rw [Account.line_of_error (hl.line_before_main rfl hmain),
        Account.line_of_error (hfast.line_before_main rfl hmain)]
      exact .refl t
    | true =>
      have hshort := hl.port_line hmain
      have hlong := hfast.port_line hmain
      obtain ⟨n, hport, hport'⟩ | ⟨p, p', hport, hport'⟩ := portSteps_speed hrest hwords hmode hlabel hfits
      · rw [hport] at hshort
        rw [hport'] at hlong
        obtain ⟨hcontext, hsteps⟩ := Account.line_of_ok hlong
        exact .of_steps hshort hcontext hsteps fun _ => rfl
      · rw [hport] at hshort
        rw [hport'] at hlong
        rw [Account.line_of_error hshort, Account.line_of_error hlong]
        exact .refl t
  | @delay l first second whole part part' a b c hl hfirst hsecond hwhole hpart hpart' hsum =>
    show SwitchesAs (t.line l) ((t.line first).line second)
    cases hmain : t.context.inMain with
    | false =>
      rw [Account.line_of_error (hl.line_before_main rfl hmain),
        Account.line_of_error (hfirst.line_before_main rfl hmain),
        Account.line_of_error (hsecond.line_before_main rfl hmain)]
      exact .refl t
    | true =>
      have hline := hl.delay_line hmain
      have hline' := hfirst.delay_line hmain
      have hline'' := hsecond.delay_line hmain
      rw [hwhole] at hline
      rw [hpart] at hline'
      rw [hpart'] at hline''
      obtain ⟨hcontext, hsteps⟩ := Account.line_of_ok hline'
      rw [← hcontext] at hline''
      obtain ⟨hcontext', hsteps'⟩ := Account.line_of_ok hline''
      rw [hsteps, List.append_assoc] at hsteps'
      exact .of_steps hline (hcontext'.trans hcontext) hsteps' fun rest =>
        (Safety.runs_delay_delay hsum rest).symm

/-- One edit leaves the report as it is. -/
theorem Edited.violation?_eq {x y : List Char} (h : Edited x y) :
    (Reading.ofText x).sequence.violation? = (Reading.ofText y).sequence.violation? := by
  obtain ⟨before, old, new, after, hx, hy, hexchange⟩ := h
  have hgives := Account.ofText_gives x
  have hgives' := Account.ofText_gives y
  unfold Account.ofText at hgives hgives'
  have hlines : ∀ l ∈ before ++ (old ++ after), '\n' ∉ l := fun l hl => Text.not_mem_lines (hx ▸ hl)
  obtain ⟨hbefore, hbehind⟩ := List.forall_mem_append.mp hlines
  have hsound := Account.sound_start.lines hbefore
  rw [hx, Account.lines_append] at hgives
  rw [hy, Account.lines_append, Account.lines_append] at hgives'
  -- What is bound before the exchange is bound in the end.
  have hmore : (Account.start.lines before).context.aliases.entries <+:
      (Reading.ofText x).sequence.aliases.entries := by
    rw [← hgives.aliases, (Account.lines_eq (Account.start.lines before) 1 (old ++ after)).2]
    exact (Reading.ofLines_wellFormed _ 1 _ hsound.declarables hbehind).2
  rw [Account.lines_append] at hgives
  exact (hexchange.switchesAs hmore).violation?_eq after hgives hgives'

/-- **The report ignores what is not switching**: however many times a script is edited, there and back,
the check reports the same switch and the same rule, or nothing as before. -/
theorem violation?_edited {x y : List Char} (h : Relation.EqvGen Edited x y) :
    (Reading.ofText x).sequence.violation? = (Reading.ofText y).sequence.violation? := by
  induction h with
  | rel _ _ hedited => exact hedited.violation?_eq
  | refl _ => rfl
  | symm _ _ _ ih => exact ih.symm
  | trans _ _ _ _ _ ih ih' => exact ih.trans ih'

/-- A port line is given a speed, a delay is split, and the end is marked. -/
theorem violation?_edited_threeTimes :
    let front := ["switch a = \"C\" \"3141\"".toList, "main:".toList]
    let slow := ["port a.p1".toList, "delay 1500".toList, "port a.p2".toList]
    let fast := ["port a.p1 SS1".toList, "delay 700".toList, "delay 800".toList, "port a.p2".toList, "end".toList]
    let x := Text.unlines (front ++ slow)
    let y := Text.unlines (front ++ fast)
    Relation.EqvGen Edited x y ∧
      (Reading.ofText x).sequence.violation? = some ⟨"a", .portOnWithoutPortOff⟩ ∧
      (Reading.ofText x).sequence.violation? = (Reading.ofText y).sequence.violation? := by
  intro front slow fast x y
  let spoken := Text.unlines (front ++ "port a.p1 SS1".toList :: slow.tail)
  let split := Text.unlines (front ++ fast.dropLast)
  have hx : Text.lines x = front ++ slow := Text.lines_unlines (by decide)
  have hspoken : Text.lines spoken = front ++ "port a.p1 SS1".toList :: slow.tail := Text.lines_unlines (by decide)
  have hsplit : Text.lines split = front ++ fast.dropLast := Text.lines_unlines (by decide)
  have hy : Text.lines y = front ++ fast := Text.lines_unlines (by decide)
  have hwords : Text.words "a.p1".toList = ["a.p1".toList] := by decide
  have hwords' : Text.words "a.p1 SS1".toList = ["a.p1".toList, "SS1".toList] := by decide
  have hmode : Speed.ofWord? "SS1".toList = some .ss1 := by decide
  have hlabel : Text.cutLast? '.' "a.p1".toList = some (['a'], ['p', '1']) := by decide
  have hbound : (Reading.ofText x).sequence.aliases.get? "a" = some ⟨⟨"C"⟩, .m3141⟩ := by decide
  have hspeed : Edited x spoken :=
    .exchange front ["port a.p1".toList] ["port a.p1 SS1".toList] slow.tail hx hspoken
      (.speed ⟨by decide, by decide, rfl⟩ ⟨by decide, by decide, rfl⟩ hwords hwords' hmode hlabel hbound rfl)
  have hdelay : Edited spoken split :=
    .exchange (front ++ ["port a.p1 SS1".toList]) ["delay 1500".toList] ["delay 700".toList, "delay 800".toList]
      ["port a.p2".toList] hspoken hsplit
      (.delay (a := 700) (b := 800) (c := 1500) ⟨by decide, by decide, rfl⟩ ⟨by decide, by decide, rfl⟩
        ⟨by decide, by decide, rfl⟩ rfl rfl rfl rfl)
  have hend : Edited split y :=
    .exchange (front ++ fast.dropLast) [] ["end".toList] [] hsplit hy
      (.aside (o := .finish) ⟨by decide, by decide, rfl⟩ rfl)
  have hedited : Relation.EqvGen Edited x y :=
    .trans _ _ _ (.rel _ _ hspeed) (.trans _ _ _ (.rel _ _ hdelay) (.rel _ _ hend))
  exact ⟨hedited, by decide, violation?_edited hedited⟩

end Script

end SwitchBench
