import SwitchBench.Dispatch.Command
import SwitchBench.Proofs.Script.Blocks

/-! The commands that a script stands for.

A line that sets a speed, connects a port or reads names an alias, and its commands are
for the switch that the alias is bound to. -/
namespace SwitchBench

open Text

namespace Step

/-- Whether a step is to command a switch. -/
def isOrder : Step → Bool
  | speed _ | port _ | read .. => true
  | _ => false

/-- What the step commands a switch to do. -/
def order? (id : SwitchId) : Step → Option Command
  | speed mode => some (.speed id mode)
  | port n => some (.port id n)
  | read _ p => some (.read id p)
  | _ => none

end Step

/-- A line of a script and the steps that it adds. -/
structure Addition where
  text : List Char
  steps : List Step

namespace Addition

/-- The alias that the text of the line names: that of a port stands before the last dot
of the target, that of a reading is the first word. -/
def label? (a : Addition) : Option String :=
  let (word, rest) := splitFirst (trim a.text)
  match Opcode.ofWord? word with
  | some .port => ((words rest).head?.bind (cutLast? '.')).map fun (label, _) => .ofList label
  | some .read => (words rest).head?.map .ofList
  | _ => none

/-- The switch that the line is about: that of the alias that it names. -/
def addressee? (as : Aliases) (a : Addition) : Option SwitchId :=
  (a.label?.bind as.get?).map (·.id)

/-- The commands that the line stands for. -/
def lowered (as : Aliases) (a : Addition) : List Command :=
  match a.addressee? as with
  | some id => a.steps.filterMap (Step.order? id)
  | none => []

/-- The steps are none, or a block about the alias that the text names. -/
def Sound (as : Aliases) (a : Addition) : Prop :=
  a.steps = [] ∨ Block as a.steps ∧ a.steps.findSome? Step.alias? = a.label?

/-- A line that commands a switch says which. -/
theorem Sound.addressee {as : Aliases} {a : Addition} (h : a.Sound as)
    (horder : a.steps.any Step.isOrder = true) : ∃ id, a.addressee? as = some id := by
  rcases h with hnone | ⟨hblock, hlabel⟩
  · rw [hnone] at horder
    cases horder
  · unfold addressee?
    rw [← hlabel]
    generalize a.steps = steps at hblock horder
    cases hblock with
    | @port label b _ hb _ | @fastPort label b _ _ hb _ _ | @read label b _ hb =>
      exact ⟨b.id, by simp [List.findSome?, Step.alias?, hb]⟩
    | delay _ | cycles _ | serial _ _ _ _ | finish => cases horder

end Addition

namespace Context

/-- The alias of the steps of a line is the one that the line names. -/
theorem label_of_line {c d : Context} {l : List Char} {steps : List Step}
    (h : c.line l = .ok (d, steps)) :
    steps = [] ∨ steps.findSome? Step.alias? = (Addition.mk l steps).label? := by
  rcases line_eq_ok h with ⟨-, rfl⟩ | ⟨o, ho, haccepts⟩
  · exact .inl rfl
  simp only [Addition.label?, ho]
  cases o with
  | switch =>
    obtain ⟨as, -, -, rfl⟩ := haccepts
    exact .inl rfl
  | main => exact .inl haccepts.2
  | port =>
    obtain ⟨target, label, digits, b, n, hcut, -, -, -, h⟩ := portSteps_eq_ok_iff.mp haccepts.2.2
    rcases h with ⟨hwords, rfl⟩ | ⟨word, mode, hwords, -, -, rfl⟩ <;>
      exact .inr (by simp [hwords, hcut, List.findSome?, Step.alias?])
  | delay =>
    obtain ⟨ms, -, rfl⟩ := delaySteps_eq_ok_iff.mp haccepts.2.2
    exact .inr rfl
  | read =>
    obtain ⟨label, word, b, p, hwords, -, -, rfl⟩ := readSteps_eq_ok_iff.mp haccepts.2.2
    exact .inr (by simp [hwords, List.findSome?, Step.alias?])
  | cycles =>
    obtain ⟨word, count, -, -, -, rfl⟩ := cycleSteps_eq_ok_iff.mp haccepts.2
    exact .inr rfl
  | serial =>
    obtain ⟨action, -, -, rfl⟩ := serialSteps_eq_ok_iff.mp haccepts.2.2
    exact .inr rfl
  | finish =>
    obtain ⟨-, rfl⟩ := haccepts
    exact .inr rfl

end Context

namespace Reading

/-- What lines add, line by line. -/
def additions (c : Context) : List (List Char) → List Addition
  | [] => []
  | l :: rest =>
    match c.line l with
    | .ok (c, steps) => ⟨l, steps⟩ :: additions c rest
    | .error _ => ⟨l, []⟩ :: additions c rest

/-- Every line has its place among the additions, -/
theorem map_text_additions (c : Context) (ls : List (List Char)) :
    (additions c ls).map (·.text) = ls := by
  induction ls generalizing c with
  | nil => rfl
  | cons l rest ih =>
    unfold additions
    split <;> rw [List.map_cons, ih]

/-- and together they are the steps of the script. -/
theorem flatMap_steps_additions (c : Context) (n : Nat) (ls : List (List Char)) :
    (additions c ls).flatMap (·.steps) = (ofLines c n ls).sequence.steps := by
  induction ls generalizing c n with
  | nil => rfl
  | cons l rest ih =>
    unfold additions ofLines
    cases c.line l with
    | ok added => simp only [List.flatMap_cons, ih added.1 (n + 1)]
    | error p => exact ih c (n + 1)

theorem sound_of_mem_additions {c : Context} {n : Nat} {ls : List (List Char)} (hc : c.Declarables)
    (hlines : ∀ l ∈ ls, '\n' ∉ l) {a : Addition} (h : a ∈ additions c ls) :
    a.Sound (ofLines c n ls).sequence.aliases := by
  induction ls generalizing c n with
  | nil => cases h
  | cons l rest ih =>
    have hrest : ∀ m ∈ rest, '\n' ∉ m := fun m hm => hlines m (List.mem_cons_of_mem l hm)
    unfold additions at h
    unfold ofLines
    cases hline : c.line l with
    | error p =>
      rw [hline] at h
      rcases List.mem_cons.mp h with rfl | h
      · exact .inl rfl
      · exact ih hc hrest h
    | ok added =>
      rw [hline] at h
      obtain ⟨hd, hcd, hsteps⟩ := Context.block_of_line hline (hlines l (List.mem_cons_self ..)) hc
      rcases List.mem_cons.mp h with rfl | h
      · have hext := (ofLines_wellFormed added.1 (n + 1) rest hd hrest).2
        rcases hsteps with hnone | hblock
        · exact .inl hnone
        · exact (Context.label_of_line hline).imp id fun hlabel =>
            ⟨hblock.mono (hcd.trans hext), hlabel⟩
      · exact ih hd hrest h

end Reading

end SwitchBench
