import Mathlib.Data.List.Forall2
import SwitchBench.Proofs.Script.Accounts
import SwitchBench.Proofs.Text.Spellings

/-! The layout of a script.

The lines of a script may end in a carriage return as well, blanks may stand in front of a line and behind it,
an opcode may be written in capitals, and the words of an instruction that consists of words may stand further
apart (`Script.Laid`). None of this changes the opening word of a line in small letters, or what follows it,
save for the width of gaps between words (`Script.Laid.alike`). So lines that are alike say the same, except that
a port line with too many words is quoted as it stands (`Script.Alike.line`), and a script that is laid out anew
comes to the same batch with the same warnings (**`Reading.ofText_relaid`**). -/
namespace SwitchBench

namespace Text

/-! ### The first word -/

theorem splitFirst_cons {c : Char} (h : isBlank c = false) (cs : List Char) :
    splitFirst (c :: cs) = (c :: (splitFirst cs).1, (splitFirst cs).2) := by
  simp [splitFirst, h]

theorem trim_of_blanks {gap : List Char} (h : ∀ c ∈ gap, isBlank c = true) : trim gap = [] :=
  trim_of_pads (a := []) ⟨gap, [], h, List.forall_mem_nil _, by simp⟩

/-- Blanks at the end do not matter to the first word and the rest. -/
theorem splitFirst_append_blanks (cs : List Char) {back : List Char} (h : ∀ c ∈ back, isBlank c = true) :
    splitFirst (cs ++ back) = splitFirst cs := by
  induction cs with
  | nil =>
    cases back with
    | nil => rfl
    | cons b back =>
      obtain ⟨hb, hback⟩ := List.forall_mem_cons.mp h
      have hfirst := splitFirst_append (w := []) (List.forall_mem_nil _) hb back
      rw [trim_of_blanks hback] at hfirst
      exact hfirst
  | cons c cs ih =>
    cases hc : isBlank c with
    | false => rw [List.cons_append, splitFirst_cons hc, splitFirst_cons hc, ih]
    | true =>
      have hsolid : Solid [] := List.forall_mem_nil _
      have hpads : Pads cs (cs ++ back) := ⟨[], back, List.forall_mem_nil _, h, rfl⟩
      have hlong := splitFirst_append hsolid hc (cs ++ back)
      have hshort := splitFirst_append hsolid hc cs
      rw [trim_of_pads hpads, ← hshort] at hlong
      exact hlong

/-- Nor do those that are trimmed off, if none stands in front. -/
theorem splitFirst_trim {cs : List Char} (h : ∀ c ∈ cs.head?, isBlank c = false) :
    splitFirst (trim cs) = splitFirst cs := by
  obtain ⟨front, back, hfront, hback, hcs⟩ := pads_trim cs
  cases front with
  | nil =>
    have hend := splitFirst_append_blanks (trim cs) hback
    rw [List.nil_append] at hcs
    rw [← hend, ← hcs]
  | cons b front =>
    have hb := hfront b (List.mem_cons_self ..)
    rw [h b (hcs ▸ rfl)] at hb
    cases hb

theorem exists_first_word (cs : List Char) :
    Solid cs ∨ ∃ w b rest, Solid w ∧ isBlank b = true ∧ cs = w ++ b :: rest := by
  induction cs with
  | nil => exact .inl (List.forall_mem_nil _)
  | cons c cs ih =>
    cases hc : isBlank c with
    | true => exact .inr ⟨[], c, cs, List.forall_mem_nil _, hc, rfl⟩
    | false =>
      obtain hsolid | ⟨w, b, rest, hw, hb, rfl⟩ := ih
      · exact .inl (List.forall_mem_cons.mpr ⟨hc, hsolid⟩)
      · exact .inr ⟨c :: w, b, rest, List.forall_mem_cons.mpr ⟨hc, hw⟩, hb, rfl⟩

/-- **The words of a text** are the first one and those of the rest. -/
theorem words_eq_cons {cs : List Char} (h : trim cs ≠ []) :
    words cs = (splitFirst (trim cs)).1 :: words (splitFirst (trim cs)).2 := by
  rw [← words_trim]
  obtain hsolid | ⟨w, b, rest, hw, hb, hcs⟩ := exists_first_word (trim cs)
  · rw [words_of_solid hsolid h, splitFirst_of_solid hsolid]
    rfl
  · have hne : w ≠ [] := by
      rintro rfl
      have hhead := (trim_trimmed cs).head b (hcs ▸ rfl)
      rw [hb] at hhead
      cases hhead
    rw [hcs, words_append hw hne hb, splitFirst_append hw hb, words_trim]

end Text

open Text

/-! ### Lines -/

/-- An instruction that consists of words. -/
def Opcode.isWordy : Opcode → Bool
  | port | read | cycles => true
  | switch | main | delay | serial | finish => false

theorem Opcode.ofWord?_congr {a b : List Char} (h : Recases a b) : ofWord? a = ofWord? b := by
  have hlower : lower a = lower b := h
  simp only [ofWord?, named?, hlower]

theorem Opcode.ofWord?_nil : ofWord? [] = none := by decide

theorem Opcode.ofWord?_comment (rest : List Char) : ofWord? ('#' :: rest) = none := by
  refine List.find?_eq_none.mpr fun o _ hname => ?_
  have hlower : lower o.name.toList = '#' :: lower rest := eq_of_beq hname
  cases o <;> cases hlower

namespace Script

/-- The word that opens a line, -/
def opening (l : List Char) : List Char := (splitFirst (trim l)).1

/-- and what follows it. -/
def operands (l : List Char) : List Char := (splitFirst (trim l)).2

/-- A comment begins with a word that is no opcode, so it is no case of its own. -/
theorem line_eq (c : Context) (l : List Char) :
    c.line l = match Opcode.ofWord? (opening l) with
      | some o => c.instruction o (operands l)
      | none => .ok (c, []) := by
  by_cases hcomment : (trim l).head? = some '#'
  · obtain ⟨rest, hrest⟩ := List.head?_eq_some_iff.mp hcomment
    have hopening : opening l = '#' :: (splitFirst rest).1 := by
      rw [opening, hrest, splitFirst_cons (by decide)]
    rw [hopening, Opcode.ofWord?_comment]
    exact if_pos hcomment
  · exact if_neg hcomment

theorem opening_eq {front word rest : List Char} (hfront : ∀ c ∈ front, isBlank c = true) (hword : Solid word)
    (hne : word ≠ []) (hrest : ∀ c ∈ rest.head?, isBlank c = true) :
    opening (front ++ word ++ rest) = word ∧ operands (front ++ word ++ rest) = trim (rest.drop 1) := by
  have hpads : Pads (word ++ rest) (front ++ word ++ rest) :=
    ⟨front, [], hfront, List.forall_mem_nil _, by simp⟩
  have hhead : ∀ c ∈ (word ++ rest).head?, isBlank c = false := by
    obtain ⟨a, w, rfl⟩ := List.exists_cons_of_ne_nil hne
    rintro c ⟨⟩
    exact hword a (List.mem_cons_self ..)
  unfold opening operands
  rw [trim_of_pads hpads, splitFirst_trim hhead]
  cases rest with
  | nil =>
    rw [List.append_nil, splitFirst_of_solid hword]
    exact ⟨rfl, rfl⟩
  | cons b rest =>
    rw [splitFirst_append hword (hrest b rfl)]
    exact ⟨rfl, rfl⟩

/-- A line and another layout of it. -/
inductive Laid : List Char → List Char → Prop
  /-- Blanks stand in front and behind, and so may a carriage return. -/
  | pad {a b : List Char} (h : Pads a b) : Laid a b
  /-- The opening word is written in capitals or small letters. -/
  | recase {front word word' rest : List Char} (hfront : ∀ c ∈ front, isBlank c = true) (hword : Solid word)
    (hrest : ∀ c ∈ rest.head?, isBlank c = true) (h : Recases word word') :
    Laid (front ++ word ++ rest) (front ++ word' ++ rest)
  /-- Words stand further apart. -/
  | stretch {front gap gap' back : List Char} {o : Opcode}
    (hopcode : Opcode.ofWord? (opening (front ++ gap ++ back)) = some o) (ho : o.isWordy = true)
    (hgap : gap ≠ [] ∧ ∀ c ∈ gap, isBlank c = true) (hgap' : gap' ≠ [] ∧ ∀ c ∈ gap', isBlank c = true) :
    Laid (front ++ gap ++ back) (front ++ gap' ++ back)

/-- Lines are alike if they have the same opening, whatever its case, and the same behind it, or there, in
an instruction that consists of words, the same words. -/
structure Alike (l l' : List Char) : Prop where
  opening : Recases (opening l) (opening l')
  operands : operands l = operands l' ∨
    (∃ o, Opcode.ofWord? (Script.opening l) = some o ∧ o.isWordy = true) ∧
      words (Script.operands l) = words (Script.operands l')

namespace Alike
variable {l l' l'' : List Char}

theorem words_eq (h : Alike l l') : words (Script.operands l) = words (Script.operands l') := by
  obtain hsame | ⟨-, hwords⟩ := h.operands
  · rw [hsame]
  · exact hwords

theorem refl (l : List Char) : Alike l l := ⟨rfl, .inl rfl⟩

theorem symm (h : Alike l l') : Alike l' l := by
  refine ⟨h.opening.symm, ?_⟩
  obtain hsame | ⟨⟨o, hopcode, ho⟩, hwords⟩ := h.operands
  · exact .inl hsame.symm
  · exact .inr ⟨⟨o, (Opcode.ofWord?_congr h.opening).symm.trans hopcode, ho⟩, hwords.symm⟩

theorem trans (h : Alike l l') (h' : Alike l' l'') : Alike l l'' := by
  refine ⟨h.opening.trans h'.opening, ?_⟩
  have hwords := h.words_eq.trans h'.words_eq
  obtain hsame | ⟨hwordy, -⟩ := h.operands
  · obtain hsame' | ⟨⟨o, hopcode, ho⟩, -⟩ := h'.operands
    · exact .inl (hsame.trans hsame')
    · exact .inr ⟨⟨o, (Opcode.ofWord?_congr h.opening).trans hopcode, ho⟩, hwords⟩
  · exact .inr ⟨hwordy, hwords⟩

end Alike

/-- **Another layout of a line is alike.** -/
theorem Laid.alike {l l' : List Char} (h : Laid l l') : Alike l l' := by
  cases h with
  | pad h =>
    have htrim := trim_of_pads h
    exact ⟨by rw [opening, opening, htrim]; rfl, .inl (by rw [operands, operands, htrim])⟩
  | @recase front word word' rest hfront hword hrest h =>
    have hlength : word.length = word'.length := by
      have := congrArg List.length (show lower word = lower word' from h)
      rwa [length_lower, length_lower] at this
    by_cases hne : word = []
    · obtain rfl : word' = [] := List.length_eq_zero_iff.mp (hlength.symm.trans (hne ▸ rfl))
      rw [hne]
      exact .refl _
    · have hne' : word' ≠ [] := fun he => hne (List.length_eq_zero_iff.mp (hlength.trans (he ▸ rfl)))
      have hword' : Solid word' := by
        intro c hc
        have hlower : c.toLower ∈ lower word := (show lower word = lower word' from h) ▸ List.mem_map_of_mem hc
        obtain ⟨d, hd, hdc⟩ := List.mem_map.mp hlower
        rw [← isBlank_toLower c, ← hdc, isBlank_toLower]
        exact hword d hd
      obtain ⟨hopening, hoperands⟩ := opening_eq hfront hword hne hrest
      obtain ⟨hopening', hoperands'⟩ := opening_eq hfront hword' hne' hrest
      refine ⟨?_, .inl (hoperands.trans hoperands'.symm)⟩
      rw [hopening, hopening']
      exact h
  | @stretch front gap gap' back o hopcode ho hgap hgap' =>
    have hsame : words (front ++ gap ++ back) = words (front ++ gap' ++ back) := by
      rw [words_append_gap front hgap.2 hgap.1, words_append_gap front hgap'.2 hgap'.1]
    have hne : trim (front ++ gap ++ back) ≠ [] := by
      intro hempty
      rw [opening, hempty] at hopcode
      cases Opcode.ofWord?_nil.symm.trans hopcode
    have hfirst := words_eq_cons hne
    have hne' : trim (front ++ gap' ++ back) ≠ [] := by
      intro hempty
      rw [← words_trim (front ++ gap' ++ back), hempty] at hsame
      cases hfirst.symm.trans hsame
    obtain ⟨hopening, hoperands⟩ := List.cons.inj (hfirst.symm.trans (hsame.trans (words_eq_cons hne')))
    refine ⟨congrArg lower hopening, .inr ⟨⟨o, hopcode, ho⟩, hoperands⟩⟩

theorem alike_of_eqvGen {l l' : List Char} (h : Relation.EqvGen Laid l l') : Alike l l' := by
  induction h with
  | rel _ _ h => exact h.alike
  | refl l => exact .refl l
  | symm _ _ _ ih => exact ih.symm
  | trans _ _ _ _ _ ih ih' => exact ih.trans ih'

/-! ### What a line says -/

/-- A port line is warned of by what follows its opcode. -/
structure Quotes (l : List Char) (p : Problem) : Prop where
  opcode : Opcode.ofWord? (opening l) = some .port
  problem : p = .invalidPort (.ofList (operands l))

/-- With the same words a port line is the same, or it has too few or too many of them. -/
theorem portSteps_congr (c : Context) {rest rest' : List Char} (h : words rest = words rest') :
    c.portSteps rest = c.portSteps rest' ∨
      c.portSteps rest = .error (.invalidPort (.ofList rest)) ∧
        c.portSteps rest' = .error (.invalidPort (.ofList rest')) := by
  match hwords : words rest' with
  | [_] | [_, _] =>
    left
    simp only [Context.portSteps, h, hwords]
  | [] | _ :: _ :: _ :: _ =>
    right
    simp only [Context.portSteps, h, hwords]
    exact ⟨rfl, rfl⟩

/-- **Lines that are alike say the same**, or they are port lines that are both refused, each with its own
text for the reason. -/
theorem Alike.line {l l' : List Char} (h : Alike l l') (c : Context) :
    c.line l = c.line l' ∨ ∃ p p', c.line l = .error p ∧ c.line l' = .error p' ∧ Quotes l p ∧ Quotes l' p' := by
  rw [line_eq, line_eq, ← Opcode.ofWord?_congr h.opening]
  obtain hsame | ⟨⟨o, hopcode, ho⟩, hwords⟩ := h.operands
  · rw [hsame]
    exact .inl rfl
  · have hopcode' := (Opcode.ofWord?_congr h.opening).symm.trans hopcode
    rw [hopcode]
    cases o with
    | switch | main | delay | serial | finish => cases ho
    | read =>
      have hsteps : c.readSteps (Script.operands l) = c.readSteps (Script.operands l') := by
        simp only [Context.readSteps, hwords]
      exact .inl (by simp only [Context.instruction, hsteps])
    | cycles =>
      have hsteps : Context.cycleSteps (Script.operands l) = Context.cycleSteps (Script.operands l') := by
        simp only [Context.cycleSteps, hwords]
      exact .inl (by simp only [Context.instruction, hsteps])
    | port =>
      cases hmain : c.inMain with
      | false => exact .inl (by simp only [Context.instruction, hmain]; rfl)
      | true =>
        obtain hsteps | ⟨hsteps, hsteps'⟩ := portSteps_congr c hwords
        · exact .inl (by simp only [Context.instruction, hsteps])
        · refine .inr ⟨_, _, ?_, ?_, ⟨hopcode, rfl⟩, ⟨hopcode', rfl⟩⟩
          · simp only [Context.instruction, hmain, hsteps]
            rfl
          · simp only [Context.instruction, hmain, hsteps']
            rfl

/-! ### Scripts -/

/-- A script and another layout of it, line by line. -/
def Relaid (x y : List Char) : Prop :=
  List.Forall₂ (Relation.EqvGen Laid) (x.splitOn '\n') (y.splitOn '\n')

/-- With a carriage return in front of every line feed. -/
def withReturns (x : List Char) : List Char := x.flatMap fun c => if c = '\n' then ['\r', '\n'] else [c]

/-- Every line may have got a carriage return. -/
theorem splitOn_withReturns (x : List Char) :
    List.Forall₂ (fun l l' => l' = l ∨ l' = l ++ ['\r']) (x.splitOn '\n') ((withReturns x).splitOn '\n') := by
  induction x with
  | nil => exact .cons (.inl rfl) .nil
  | cons c x ih =>
    by_cases hc : c = '\n'
    · have hreturn : withReturns (c :: x) = ['\r'] ++ '\n' :: withReturns x := by simp [withReturns, hc]
      rw [hreturn, hc, splitOn_append_cons (by decide)]
      exact .cons (.inr rfl) ih
    · have hkept : withReturns (c :: x) = c :: withReturns x := by simp [withReturns, hc]
      have hcut : ∀ cs : List Char, (c :: cs).splitOn '\n' = (cs.splitOn '\n').modifyHead (c :: ·) := by
        intro cs
        rw [List.splitOn, List.splitOnP_cons_eq_if_modifyHead, if_neg (by simpa using hc)]
        rfl
      rw [hkept, hcut, hcut]
      generalize x.splitOn '\n' = pieces, (withReturns x).splitOn '\n' = pieces' at ih
      cases ih with
      | nil => exact .nil
      | cons h hrest =>
        refine .cons ?_ hrest
        rcases h with rfl | rfl
        · exact .inl rfl
        · exact .inr rfl

end Script

namespace Reading
open Script

variable {c : Context} {n : Nat} {ls ls' : List (List Char)}

/-- A blank line at the end says nothing. -/
theorem ofLines_concat_nil (c : Context) (n : Nat) (ls : List (List Char)) :
    ofLines c n (ls ++ [[]]) = ofLines c n ls := by
  induction ls generalizing c n with
  | nil => rfl
  | cons l rest ih => simp only [List.cons_append, ofLines, ih]

theorem ofText_eq_splitOn (x : List Char) : ofText x = ofLines .start 1 (x.splitOn '\n') := by
  simp only [ofText, lines]
  split
  next hlast =>
    obtain ⟨ls, hls⟩ := List.getLast?_eq_some_iff.mp hlast
    rw [hls, List.dropLast_concat, ofLines_concat_nil]
  next => rfl

/-- The ends of lines do not matter. -/
theorem ofLines_repadded (h : List.Forall₂ Repadded ls ls') : ofLines c n ls = ofLines c n ls' := by
  induction h generalizing c n with
  | nil => rfl
  | @cons l l' rest rest' hline _ ih =>
    have hsame : c.line l = c.line l' := by
      rw [Context.line, Context.line, repadded_iff.mp hline]
    simp only [ofLines, hsame, ih]

/-- One line of two layouts is warned of for the same reason, or each of the two is quoted as it stands; the
lines `ls` and `ls'` are numbered from `n` on. -/
structure Retold (n : Nat) (ls ls' : List (List Char)) (w w' : Warning) : Prop where
  line : w.line = w'.line
  problem : w.problem = w'.problem ∨ ∃ k l l', w.line = n + k ∧ ls[k]? = some l ∧ ls'[k]? = some l' ∧
    Quotes l w.problem ∧ Quotes l' w'.problem ∧ words (operands l) = words (operands l')

theorem Retold.behind {l l' : List Char} {w w' : Warning} (h : Retold (n + 1) ls ls' w w') :
    Retold n (l :: ls) (l' :: ls') w w' := by
  refine ⟨h.line, h.problem.imp_right ?_⟩
  rintro ⟨k, m, m', hline, hm, hm', hquotes⟩
  exact ⟨k + 1, m, m', by omega, hm, hm', hquotes⟩

/-- **Lines that are alike come to the same**, one by one. -/
theorem ofLines_alike (h : List.Forall₂ Alike ls ls') :
    (ofLines c n ls).sequence = (ofLines c n ls').sequence ∧
      List.Forall₂ (Retold n ls ls') (ofLines c n ls).warnings (ofLines c n ls').warnings := by
  induction h generalizing c n with
  | nil => exact ⟨rfl, .nil⟩
  | @cons l l' rest rest' halike _ ih =>
    obtain hsame | ⟨p, p', hl, hl', hquotes, hquotes'⟩ := halike.line c
    · cases hline : c.line l with
      | ok r =>
        obtain ⟨d, steps⟩ := r
        obtain ⟨hsequence, hwarnings⟩ := ih (c := d) (n := n + 1)
        rw [ofLines_cons hline, ofLines_cons (hsame.symm.trans hline), hsequence]
        exact ⟨rfl, hwarnings.imp fun _ _ h => h.behind⟩
      | error p =>
        obtain ⟨hsequence, hwarnings⟩ := ih (c := c) (n := n + 1)
        rw [ofLines_error hline, ofLines_error (hsame.symm.trans hline)]
        exact ⟨hsequence, .cons ⟨rfl, .inl rfl⟩ (hwarnings.imp fun _ _ h => h.behind)⟩
    · obtain ⟨hsequence, hwarnings⟩ := ih (c := c) (n := n + 1)
      rw [ofLines_error hl, ofLines_error hl']
      have hhere : Retold n (l :: rest) (l' :: rest') ⟨n, p⟩ ⟨n, p'⟩ :=
        ⟨rfl, .inr ⟨0, l, l', rfl, rfl, rfl, hquotes, hquotes', halike.words_eq⟩⟩
      exact ⟨hsequence, .cons hhere (hwarnings.imp fun _ _ h => h.behind)⟩

/-- **The layout of a script does not matter.** Carriage returns at the ends of its lines make no difference at
all. However it is laid out anew, it comes to the same batch, also counted line by line, the same lines are
warned of, and for the same reasons; only where a port line has too many words, each layout has its own line
quoted. -/
theorem ofText_relaid {x y : List Char} (h : Relaid x y) :
    ofText (withReturns x) = ofText x ∧ (ofText x).sequence = (ofText y).sequence ∧
      (Account.ofText y).Gives (ofText x).sequence ∧
      List.Forall₂ (Retold 1 (x.splitOn '\n') (y.splitOn '\n')) (ofText x).warnings (ofText y).warnings := by
  have hreturns : ofText x = ofText (withReturns x) := by
    rw [ofText_eq_splitOn, ofText_eq_splitOn]
    refine ofLines_repadded ((splitOn_withReturns x).imp ?_)
    rintro l l' (rfl | rfl)
    · exact .refl _
    · exact .rel _ _ ⟨[], ['\r'], by simp, List.all_eq_true.mp rfl, rfl⟩
  have halike : List.Forall₂ Alike (x.splitOn '\n') (y.splitOn '\n') := h.imp fun _ _ => alike_of_eqvGen
  obtain ⟨hsequence, hwarnings⟩ := ofLines_alike (c := .start) (n := 1) halike
  rw [← ofText_eq_splitOn, ← ofText_eq_splitOn] at hsequence hwarnings
  exact ⟨hreturns.symm, hsequence, hsequence ▸ Account.ofText_gives y, hwarnings⟩

/-- The main part begins in capitals and with a carriage return, a declaration is indented, and the third word of
a port line stands further behind. -/
theorem ofText_relaid_threeLines :
    let x := "main:\nswitch a = \"C\" \"3141\"\nport a.p1 SS1 now".toList
    let y := "MAIN:\r\n\tswitch a = \"C\" \"3141\"\nport a.p1 SS1 \u2003 now".toList
    Relaid x y ∧ (ofText x).sequence = (ofText y).sequence ∧
      List.Forall₂ (Retold 1 (x.splitOn '\n') (y.splitOn '\n')) (ofText x).warnings (ofText y).warnings ∧
      (ofText x).warnings = [⟨3, .invalidPort "a.p1 SS1 now"⟩] ∧
      (ofText y).warnings = [⟨3, .invalidPort "a.p1 SS1 \u2003 now"⟩] := by
  intro x y
  let declaration := "switch a = \"C\" \"3141\"".toList
  let port := "port a.p1 SS1".toList
  have hx : x.splitOn '\n' = ["main:".toList, declaration, port ++ [' '] ++ "now".toList] := by decide
  have hy : y.splitOn '\n' = ["MAIN:\r".toList, '\t' :: declaration, port ++ [' ', '\u2003', ' '] ++ "now".toList] := by
    decide
  have hcapitals : Laid ([] ++ "main:".toList ++ []) ([] ++ "MAIN:".toList ++ []) :=
    .recase (by simp) (by decide) (by simp) (by decide : lower "main:".toList = lower "MAIN:".toList)
  have hreturn : Laid "MAIN:".toList "MAIN:\r".toList := .pad ⟨[], ['\r'], by simp, List.all_eq_true.mp rfl, rfl⟩
  have hindented : Laid declaration ('\t' :: declaration) :=
    .pad ⟨['\t'], [], List.all_eq_true.mp rfl, by simp, by simp⟩
  have hwider : Laid (port ++ [' '] ++ "now".toList) (port ++ [' ', '\u2003', ' '] ++ "now".toList) :=
    .stretch (o := .port) (by decide) rfl ⟨by decide, List.all_eq_true.mp rfl⟩
      ⟨by decide, List.all_eq_true.mp rfl⟩
  have hrelaid : Relaid x y := by
    unfold Relaid
    rw [hx, hy]
    exact .cons (.trans _ _ _ (.rel _ _ hcapitals) (.rel _ _ hreturn))
      (.cons (.rel _ _ hindented) (.cons (.rel _ _ hwider) .nil))
  obtain ⟨-, hsequence, -, hwarnings⟩ := ofText_relaid hrelaid
  exact ⟨hrelaid, hsequence, hwarnings, by decide, by decide⟩

end Reading

end SwitchBench
