import SwitchBench.Proofs.Text.Pieces
import SwitchBench.Script.Reading

/-! When a line of a script counts.

Each kind of instruction is accepted on a condition of its own, and what it then
means is fixed by the parts that the condition names. The equivalences here serve
both ways: a reader learns from them what an accepted line was made of, and a writer
what a line must be made of to be accepted. -/
namespace SwitchBench

open Text

namespace Aliases

theorem ext {as bs : Aliases} (h : as.entries = bs.entries) : as = bs := by
  cases as
  cases bs
  cases h
  rfl

theorem get?_of_mem {as : Aliases} {label : String} {b : Binding} (h : (label, b) ∈ as.entries) :
    as.get? label = some b := by
  obtain ⟨es, hnodup⟩ := as
  simp only [get?] at h ⊢
  induction es with
  | nil => exact absurd h List.not_mem_nil
  | cons e rest ih =>
    rw [List.map_cons, List.nodup_cons] at hnodup
    rcases List.mem_cons.mp h with rfl | hrest
    · simp
    · have hne : e.1 ≠ label := fun he => hnodup.1 (he ▸ List.mem_map_of_mem (f := (·.1)) hrest)
      rw [List.find?_cons_of_neg (by simpa using hne)]
      exact ih hnodup.2 hrest

theorem mem_of_get? {as : Aliases} {label : String} {b : Binding} (h : as.get? label = some b) :
    (label, b) ∈ as.entries := by
  obtain ⟨⟨l, v⟩, he, hb⟩ := Option.map_eq_some_iff.mp h
  have hl : l = label := by simpa using List.find?_some he
  subst hl hb
  exact List.mem_of_find?_eq_some he

/-- An alias is bound behind those that are bound already. -/
theorem declare?_eq_some_iff {as bs : Aliases} {label : String} {b : Binding} :
    as.declare? label b = some bs ↔
      label ∉ as.entries.map (·.1) ∧ bs.entries = as.entries ++ [(label, b)] := by
  unfold declare?
  split
  next h =>
    rw [Option.some.injEq, ← as.get?_eq_none_iff label]
    constructor
    · rintro rfl
      exact ⟨h, rfl⟩
    · exact fun he => ext he.2.symm
  next h =>
    rw [as.get?_eq_none_iff label] at h
    exact ⟨fun hs => absurd hs (by simp), fun hs => absurd hs.1 h⟩

end Aliases

namespace Context

theorem binding_eq_ok_iff {c : Context} {label : List Char} {b : Binding} :
    c.binding label = .ok b ↔ c.aliases.get? (.ofList label) = some b := by
  unfold binding
  cases c.aliases.get? (.ofList label) <;> simp

theorem declaration_eq_ok_iff {c : Context} {rest : List Char} {as : Aliases} :
    c.declaration rest = .ok as ↔
      ∃ left right path word model, cutFirst? '=' rest = some (left, right) ∧
        quotedWords right = [path, word] ∧ trim left ≠ [] ∧ Solid (trim left) ∧
        Model.ofName? (.ofList word) = some model ∧ (SwitchId.ofText (.ofList path)).text ≠ "" ∧
        c.aliases.declare? (.ofList (trim left)) ⟨.ofText (.ofList path), model⟩ = some as := by
  simp only [declaration, bind, Except.bind, throw, throwThe, MonadExceptOf.throw, pure, Except.pure,
    Bool.or_eq_true, List.isEmpty_iff, List.any_eq_true]
  constructor
  · intro h
    split at h
    next left right hcut =>
      split at h
      next path word hwords =>
        split at h
        next => simp at h
        next hlabel =>
          obtain ⟨hne, hsolid⟩ := not_or.mp hlabel
          split at h
          next model hmodel =>
            split at h
            next => simp at h
            next hid =>
              split at h
              next hdeclare =>
                rw [Except.ok.injEq] at h
                refine ⟨left, right, path, word, model, hcut, hwords, hne, fun x hx => ?_, hmodel, hid,
                  h ▸ hdeclare⟩
                simpa using fun hb => hsolid ⟨x, hx, hb⟩
              next => simp at h
          next => simp at h
      next => simp at h
    next => simp at h
  · rintro ⟨left, right, path, word, model, hcut, hwords, hne, hsolid, hmodel, hid, hdeclare⟩
    have hblank : ¬ (trim left = [] ∨ ∃ x, x ∈ trim left ∧ isBlank x = true) := by
      rintro (h | ⟨x, hx, hb⟩)
      · exact hne h
      · exact hsolid.not_mem hb hx
    simp only [hcut, hwords, hmodel, hdeclare, if_neg hblank, if_neg hid]

theorem portSteps_eq_ok_iff {c : Context} {rest : List Char} {steps : List Step} :
    c.portSteps rest = .ok steps ↔
      ∃ target label digits b n, cutLast? '.' target = some (label, digits) ∧
        c.aliases.get? (.ofList label) = some b ∧ portNumber? digits = some n ∧
        b.model.accepts n = true ∧
        ((words rest = [target] ∧ steps = [.select (.ofList label), .port n]) ∨
          ∃ word mode, words rest = [target, word] ∧ Speed.ofWord? word = some mode ∧
            b.model.hasSpeed = true ∧
            steps = [.select (.ofList label), .speed mode, .port n]) := by
  simp only [portSteps, bind, Except.bind, throw, throwThe, MonadExceptOf.throw, pure, Except.pure]
  constructor
  · intro h
    split at h
    next target hwords =>
      split at h
      next label digits hcut =>
        split at h
        next => simp at h
        next b hb =>
          split at h
          next n hn =>
            split at h
            next haccepts =>
              rw [Except.ok.injEq] at h
              exact ⟨target, label, digits, b, n, hcut, binding_eq_ok_iff.mp hb, hn, haccepts,
                .inl ⟨hwords, h.symm⟩⟩
            next => simp at h
          next => simp at h
      next => simp at h
    next target word hwords =>
      split at h
      next label digits hcut =>
        split at h
        next => simp at h
        next b hb =>
          split at h
          next n hn =>
            split at h
            next haccepts =>
              split at h
              next mode hmode =>
                split at h
                next hspeed =>
                  rw [Except.ok.injEq] at h
                  exact ⟨target, label, digits, b, n, hcut, binding_eq_ok_iff.mp hb, hn, haccepts,
                    .inr ⟨word, mode, hwords, hmode, hspeed, h.symm⟩⟩
                next => simp at h
              next => simp at h
            next => simp at h
          next => simp at h
      next => simp at h
    next => simp at h
  · rintro ⟨target, label, digits, b, n, hcut, hb, hn, haccepts, h⟩
    have hbinding := binding_eq_ok_iff.mpr hb
    rcases h with ⟨hwords, rfl⟩ | ⟨word, mode, hwords, hmode, hspeed, rfl⟩
    · simp only [hwords, hcut, hbinding, hn, haccepts, if_true]
    · simp only [hwords, hcut, hbinding, hn, haccepts, hmode, hspeed, if_true]

/-- The number of a delay, with the unit dropped where it is written. -/
def delayDigits (rest : List Char) : List Char :=
  let lowered := lower rest
  trim (if "ms".toList.isSuffixOf lowered then lowered.dropLast.dropLast else lowered)

theorem delaySteps_eq_ok_iff {rest : List Char} {steps : List Step} :
    delaySteps rest = .ok steps ↔
      ∃ ms, word64? (delayDigits rest) = some ms ∧ steps = [.delay ms] := by
  simp only [delaySteps, delayDigits]
  cases word64? (trim (if "ms".toList.isSuffixOf (lower rest) then (lower rest).dropLast.dropLast
    else lower rest)) <;> simp [eq_comm]

theorem readSteps_eq_ok_iff {c : Context} {rest : List Char} {steps : List Step} :
    c.readSteps rest = .ok steps ↔
      ∃ label word b p, words rest = [label, word] ∧ c.aliases.get? (.ofList label) = some b ∧
        Parameter.ofWord? word = some p ∧ steps = [.read (.ofList label) p] := by
  simp only [readSteps, bind, Except.bind, throw, throwThe, MonadExceptOf.throw, pure, Except.pure]
  constructor
  · intro h
    split at h
    next label word hwords =>
      split at h
      next => simp at h
      next b hb =>
        split at h
        next p hp =>
          rw [Except.ok.injEq] at h
          exact ⟨label, word, b, p, hwords, binding_eq_ok_iff.mp hb, hp, h.symm⟩
        next => simp at h
    next => simp at h
  · rintro ⟨label, word, b, p, hwords, hb, hp, rfl⟩
    simp only [hwords, binding_eq_ok_iff.mpr hb, hp]

theorem cycleSteps_eq_ok_iff {rest : List Char} {steps : List Step} :
    cycleSteps rest = .ok steps ↔
      ∃ word count, words rest = [word] ∧ word32? word = some count ∧ count ≠ 0 ∧
        steps = [.cycles count] := by
  simp only [cycleSteps]
  constructor
  · intro h
    split at h
    next word hwords =>
      split at h
      next count hcount =>
        split at h
        next => simp at h
        next hne =>
          rw [Except.ok.injEq] at h
          exact ⟨word, count, hwords, hcount, hne, h.symm⟩
      next => simp at h
    next => simp at h
  · rintro ⟨word, count, hwords, hcount, hne, rfl⟩
    simp only [hwords, hcount, if_neg hne]

theorem serialSteps_eq_ok_iff {rest : List Char} {steps : List Step} :
    serialSteps rest = .ok steps ↔
      ∃ action, SerialAction.ofName? (.ofList (splitFirst rest).1) = some action ∧
        (splitFirst rest).2 ≠ [] ∧ steps = [.serial action (.ofList (splitFirst rest).2)] := by
  simp only [serialSteps, List.isEmpty_iff]
  constructor
  · intro h
    split at h
    next action haction =>
      split at h
      next => simp at h
      next hne =>
        rw [Except.ok.injEq] at h
        exact ⟨action, haction, hne, h.symm⟩
    next => simp at h
  · rintro ⟨action, haction, hne, rfl⟩
    simp only [haction, if_neg hne]

/-- What an accepted instruction does: the context after it and the steps it adds. -/
def Accepts (c : Context) (rest : List Char) (d : Context) (steps : List Step) : Opcode → Prop
  | .switch => ∃ as, c.declaration rest = .ok as ∧ d = { c with aliases := as } ∧ steps = []
  | .main => d = { c with inMain := true } ∧ steps = []
  | .port => c.inMain = true ∧ d = c ∧ c.portSteps rest = .ok steps
  | .delay => c.inMain = true ∧ d = c ∧ delaySteps rest = .ok steps
  | .read => c.inMain = true ∧ d = c ∧ c.readSteps rest = .ok steps
  | .cycles => d = c ∧ cycleSteps rest = .ok steps
  | .serial => c.inMain = true ∧ d = c ∧ serialSteps rest = .ok steps
  | .finish => d = c ∧ steps = [.finish]

private theorem map_eq_ok_iff {ε α β : Type} {x : Except ε α} {f : α → β} {b : β} :
    x.map f = .ok b ↔ ∃ a, x = .ok a ∧ f a = b := by
  cases x <;> simp [Except.map]

/-- An instruction for the main part counts only there. -/
private theorem guarded_eq_ok_iff {c d : Context} {o : Opcode} (ho : o.needsMain = true)
    {x : Except Problem (List Step)} {steps : List Step} :
    (do
      if o.needsMain && !c.inMain then throw (.beforeMain o.name)
      return (c, ← x) : Except Problem (Context × List Step)) = .ok (d, steps) ↔
      c.inMain = true ∧ d = c ∧ x = .ok steps := by
  rw [ho]
  cases hmain : c.inMain with
  | false => exact Iff.intro (fun h => nomatch h) fun h => nomatch h.1
  | true =>
    cases x with
    | error p => exact Iff.intro (fun h => nomatch h) fun h => nomatch h.2.2
    | ok added =>
      constructor
      · rintro ⟨⟩
        exact ⟨rfl, rfl, rfl⟩
      · rintro ⟨-, rfl, ⟨⟩⟩
        rfl

theorem instruction_eq_ok_iff {c d : Context} {opcode : Opcode} {rest : List Char}
    {steps : List Step} :
    c.instruction opcode rest = .ok (d, steps) ↔ c.Accepts rest d steps opcode := by
  cases opcode with
  | switch =>
    have h : c.instruction .switch rest =
        (c.declaration rest).map fun as => ({ c with aliases := as }, []) := rfl
    rw [h, map_eq_ok_iff]
    simp [Accepts, eq_comm]
  | main =>
    have h : c.instruction .main rest = .ok ({ c with inMain := true }, []) := rfl
    simp [h, Accepts, eq_comm]
  | port => exact guarded_eq_ok_iff (o := .port) rfl
  | delay => exact guarded_eq_ok_iff (o := .delay) rfl
  | read => exact guarded_eq_ok_iff (o := .read) rfl
  | serial => exact guarded_eq_ok_iff (o := .serial) rfl
  | cycles =>
    have h : c.instruction .cycles rest = (cycleSteps rest).map fun added => (c, added) := rfl
    rw [h, map_eq_ok_iff]
    constructor
    · rintro ⟨added, hx, he⟩
      cases he
      exact ⟨rfl, hx⟩
    · rintro ⟨rfl, hx⟩
      exact ⟨steps, hx, rfl⟩
  | finish =>
    have h : c.instruction .finish rest = .ok (c, [.finish]) := rfl
    simp [h, Accepts, eq_comm]

/-- A line is the instruction that its first word names, if it is no comment. -/
theorem line_of_opcode (c : Context) {l : List Char} {o : Opcode}
    (hcomment : (trim l).head? ≠ some '#')
    (ho : Opcode.ofWord? (splitFirst (trim l)).1 = some o) :
    c.line l = c.instruction o (splitFirst (trim l)).2 := by
  simp only [line, if_neg hcomment, ho]

theorem line_eq_ok {c d : Context} {l : List Char} {steps : List Step}
    (h : c.line l = .ok (d, steps)) :
    (d = c ∧ steps = []) ∨ ∃ o, Opcode.ofWord? (splitFirst (trim l)).1 = some o ∧
      c.Accepts (splitFirst (trim l)).2 d steps o := by
  simp only [line] at h
  split at h
  · exact .inl (by simpa [eq_comm] using h)
  · split at h
    next o ho => exact .inr ⟨o, ho, instruction_eq_ok_iff.mp h⟩
    next => exact .inl (by simpa [eq_comm] using h)

end Context

namespace Reading

/-- A line that counts adds its steps in front of those of the lines behind it, -/
theorem ofLines_cons {c d : Context} {l : List Char} {steps : List Step}
    (h : c.line l = .ok (d, steps)) (n : Nat) (rest : List (List Char)) :
    ofLines c n (l :: rest) =
      { ofLines d (n + 1) rest with
        sequence := { (ofLines d (n + 1) rest).sequence with
          steps := steps ++ (ofLines d (n + 1) rest).sequence.steps } } := by
  rw [ofLines, h]

/-- and one that does not count adds nothing. -/
theorem ofLines_error {c : Context} {l : List Char} {p : Problem} (h : c.line l = .error p) (n : Nat)
    (rest : List (List Char)) :
    ofLines c n (l :: rest) =
      { ofLines c (n + 1) rest with warnings := ⟨n, p⟩ :: (ofLines c (n + 1) rest).warnings } := by
  rw [ofLines, h]

end Reading

end SwitchBench
