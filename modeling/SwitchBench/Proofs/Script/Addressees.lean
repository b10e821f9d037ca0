import SwitchBench.Proofs.Script.Accounts
import SwitchBench.Proofs.Script.Lowering

/-! The switches that steps address.

A step that commands a switch addresses it by a binding: a reading names its own, a speed or
a port step goes by the latest selection. In a script every such step has one, by an alias
that is declared, and asks no more for a port or a speed than the declared model can do. A
new cycle changes nothing: each step is addressed as it was in the first. -/
namespace SwitchBench

namespace Step

/-- The step asks for what a switch of the model cannot do. -/
def exceeds (m : Model) : Step → Bool
  | port n => !m.accepts n
  | speed _ => !m.hasSpeed
  | read _ p => p.isMeasurement && !m.hasMeters
  | _ => false

/-- The step is for the console. -/
def isSerial : Step → Bool
  | serial .. => true
  | _ => false

theorem isSerial_iff {st : Step} : st.isSerial = true ↔ ∃ action payload, st = .serial action payload := by
  cases st <;> simp [isSerial]

/-- The binding that is selected after the step. -/
def selection (as : Aliases) (b? : Option Binding) : Step → Option Binding
  | select label => (as.get? label).or b?
  | _ => b?

/-- The binding by which the step addresses its switch. -/
def binding? (as : Aliases) (b? : Option Binding) : Step → Option Binding
  | speed _ | port _ => b?
  | read label _ => as.get? label
  | _ => none

end Step

/-- A step and the binding by which it addresses its switch. -/
structure Addressed where
  step : Step
  binding? : Option Binding

namespace Addressed

/-- The command that the step stands for. -/
def command? (a : Addressed) : Option Command := a.binding?.bind fun b => a.step.order? b.id

/-- The step is for a console that there is not, or asks for what its switch cannot do, where
switches are of these models. -/
def fails (model? : SwitchId → Option Model) (a : Addressed) : Bool :=
  a.step.isSerial || a.binding?.any fun b => (model? b.id).any a.step.exceeds

/-- What can be relied on in a script: who is to be commanded is known, and no port and no
speed is beyond the declared model. -/
structure Apt (as : Aliases) (a : Addressed) : Prop where
  selects : ∀ label, a.step = .select label → ∃ b, as.get? label = some b
  bound : a.step.isOrder = true → ∃ b, a.binding? = some b
  within : ∀ b, a.binding? = some b → (∀ label p, a.step ≠ .read label p) → a.step.exceeds b.model = false

theorem Apt.select {as : Aliases} {label : String} {b : Binding} (h : as.get? label = some b) :
    (⟨.select label, none⟩ : Addressed).Apt as where
  selects l hl := by cases hl; exact ⟨b, h⟩
  bound h := by cases h
  within _ h := by cases h

theorem Apt.quiet {as : Aliases} {st : Step} (hselect : ∀ label, st ≠ .select label)
    (horder : st.isOrder = false) : (⟨st, none⟩ : Addressed).Apt as where
  selects label h := absurd h (hselect label)
  bound h := by cases horder.symm.trans h
  within _ h := by cases h

theorem Apt.order {as : Aliases} {st : Step} {b : Binding} (horder : st.isOrder = true)
    (hwithin : (∀ label p, st ≠ .read label p) → st.exceeds b.model = false) :
    (⟨st, some b⟩ : Addressed).Apt as where
  selects label h := by cases h; cases horder
  bound _ := ⟨b, rfl⟩
  within c hc hread := by cases hc; exact hwithin hread

end Addressed

/-- Steps as they are addressed where a binding is selected before them. -/
def Aliases.address (as : Aliases) : Option Binding → List Step → List Addressed
  | _, [] => []
  | b?, st :: rest => ⟨st, st.binding? as b?⟩ :: address as (st.selection as b?) rest

/-- The steps of a batch as they are addressed. -/
def Sequence.addressed (q : Sequence) : List Addressed := q.aliases.address none q.steps

section
variable {as : Aliases}

theorem Aliases.map_step_address (b? : Option Binding) (steps : List Step) :
    (as.address b? steps).map Addressed.step = steps := by
  induction steps generalizing b? with
  | nil => rfl
  | cons st rest ih => rw [address, List.map_cons, ih]

/-- A step goes by the binding selected before, or by one that a step names. -/
theorem Aliases.binding_of_mem_address {steps : List Step} {b? : Option Binding} {a : Addressed}
    (ha : a ∈ as.address b? steps) {b : Binding} (hb : a.binding? = some b) :
    b? = some b ∨ ∃ step ∈ steps, ∃ label, step.alias? = some label ∧ as.get? label = some b := by
  induction steps generalizing b? with
  | nil => exact absurd ha List.not_mem_nil
  | cons st rest ih =>
    rcases List.mem_cons.mp ha with rfl | ha
    · cases st with
      | read label p => exact .inr ⟨_, List.mem_cons_self .., label, rfl, hb⟩
      | speed _ | port _ => exact .inl hb
      | _ => cases hb
    · rcases ih ha with hselected | ⟨step, hstep, hnamed⟩
      · cases st with
        | select label =>
          rcases Option.or_eq_some_iff.mp hselected with hlabel | ⟨-, hbefore⟩
          · exact .inr ⟨_, List.mem_cons_self .., label, rfl, hlabel⟩
          · exact .inl hbefore
        | _ => exact .inl hselected
      · exact .inr ⟨step, List.mem_cons_of_mem _ hstep, hnamed⟩

/-- A step of a batch goes by a binding that a step of it names. -/
theorem Sequence.named_of_addressed {q : Sequence} {a : Addressed} (ha : a ∈ q.addressed) {b : Binding}
    (hb : a.binding? = some b) :
    ∃ step ∈ q.steps, ∃ label, step.alias? = some label ∧ q.aliases.get? label = some b :=
  (Aliases.binding_of_mem_address ha hb).resolve_left fun hnone => by cases hnone

/-- The switch that a step addresses is one that the batch takes. -/
theorem Sequence.mem_requiredIds_of_addressed {q : Sequence} {a : Addressed} (ha : a ∈ q.addressed)
    {b : Binding} (hb : a.binding? = some b) : b.id ∈ q.requiredIds := by
  obtain ⟨step, hstep, label, hlabel, hget⟩ := q.named_of_addressed ha hb
  exact mem_requiredIds_iff.mpr ⟨step, hstep, label, b, hlabel, hget, rfl⟩

/-- What was selected before makes no difference to lines. -/
theorem Blocks.address_congr {steps : List Step} (h : Blocks as steps) (b? c? : Option Binding) :
    as.address b? steps = as.address c? steps := by
  induction h generalizing b? c? with
  | nil => rfl
  | cons hblock _ ih =>
    cases hblock with
    | port hb _ | fastPort hb _ _ => simp [Aliases.address, Step.binding?, Step.selection, hb]
    | read p hb | delay _ | cycles _ | serial _ _ _ _ | finish =>
      simpa [Aliases.address, Step.binding?, Step.selection] using ih b? c?

/-- **Every step of a script is addressed as it has to be.** -/
theorem Blocks.apt {steps : List Step} (h : Blocks as steps) (b? : Option Binding) :
    ∀ a ∈ as.address b? steps, a.Apt as := by
  induction h generalizing b? with
  | nil => exact fun a ha => absurd ha List.not_mem_nil
  | cons hblock _ ih =>
    cases hblock with
    | @port label b n hb hn =>
      have hport : (Addressed.mk (.port n) (some b)).Apt as := .order rfl fun _ => by simp [Step.exceeds, hn]
      simpa [Aliases.address, Step.binding?, Step.selection, hb] using
        ⟨Addressed.Apt.select hb, hport, ih _⟩
    | @fastPort label b mode n hb hn hs =>
      have hport : (Addressed.mk (.port n) (some b)).Apt as := .order rfl fun _ => by simp [Step.exceeds, hn]
      have hspeed : (Addressed.mk (.speed mode) (some b)).Apt as := .order rfl fun _ => by simp [Step.exceeds, hs]
      simpa [Aliases.address, Step.binding?, Step.selection, hb] using
        ⟨Addressed.Apt.select hb, hspeed, hport, ih _⟩
    | @read label b p hb =>
      have hread : (Addressed.mk (.read label p) (some b)).Apt as := .order rfl fun h => absurd rfl (h label p)
      simpa [Aliases.address, Step.binding?, Step.selection, hb] using ⟨hread, ih _⟩
    | delay _ | cycles _ | serial _ _ _ _ | finish =>
      exact List.forall_mem_cons.mpr ⟨.quiet (by simp) rfl, ih _⟩

end

end SwitchBench
