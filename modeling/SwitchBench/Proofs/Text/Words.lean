import SwitchBench.Text.Blank

/-! Words and trimmed texts.

A text is trimmed when no blank stands at either end; a word is solid when it holds
no blank at all. Trimming yields trimmed texts and leaves them alone, and a solid word
in front of a blank is split off as it is. -/
namespace SwitchBench.Text

/-- Without blanks. -/
def Solid (cs : List Char) : Prop := ∀ c ∈ cs, isBlank c = false

instance : DecidablePred Solid := fun cs => List.decidableBAll (fun c => isBlank c = false) cs

/-- With no blank at either end. -/
structure Trimmed (cs : List Char) : Prop where
  head : ∀ c ∈ cs.head?, isBlank c = false
  last : ∀ c ∈ cs.getLast?, isBlank c = false

/-! ### Solid words -/

theorem Solid.append {v w : List Char} (hv : Solid v) (hw : Solid w) : Solid (v ++ w) := by
  intro c hc
  rcases List.mem_append.mp hc with hc | hc
  · exact hv c hc
  · exact hw c hc

theorem Solid.not_mem {w : List Char} (h : Solid w) {c : Char} (hc : isBlank c = true) : c ∉ w := by
  intro hmem
  rw [h c hmem] at hc
  exact Bool.false_ne_true hc

theorem Solid.trimmed {w : List Char} (h : Solid w) : Trimmed w :=
  ⟨fun c hc => h c (List.mem_of_mem_head? hc), fun c hc => h c (List.mem_of_getLast? hc)⟩

/-! ### Trimming -/

theorem trimStart_head (cs : List Char) : ∀ c ∈ (trimStart cs).head?, isBlank c = false := by
  intro c hc
  have h := List.head?_dropWhile_not isBlank cs
  unfold trimStart at hc
  rw [Option.mem_def.mp hc] at h
  simpa using h

theorem prefix_trimEnd (cs : List Char) : trimEnd cs <+: cs := by
  have h := List.reverse_prefix.mpr (List.dropWhile_suffix isBlank (l := cs.reverse))
  rwa [List.reverse_reverse] at h

theorem trim_trimmed (cs : List Char) : Trimmed (trim cs) := by
  constructor
  · intro c hc
    obtain ⟨rest, hrest⟩ := prefix_trimEnd (trimStart cs)
    apply trimStart_head cs
    rw [← hrest, List.head?_append]
    exact Option.mem_def.mpr (by rw [show (trimEnd (trimStart cs)).head? = some c from hc]; rfl)
  · intro c hc
    unfold trim trimEnd at hc
    rw [List.getLast?_reverse] at hc
    exact trimStart_head _ c hc

/-- Trimming leaves trimmed texts alone. -/
theorem Trimmed.trim_eq {cs : List Char} (h : Trimmed cs) : trim cs = cs := by
  have hstart : trimStart cs = cs := by
    cases cs with
    | nil => rfl
    | cons c rest => simp [trimStart, h.head c rfl]
  have hend : trimEnd cs = cs := by
    unfold trimEnd
    cases hr : cs.reverse with
    | nil => simpa using congrArg List.reverse hr
    | cons c rest =>
      have hlast : cs.getLast? = some c := by rw [← List.head?_reverse, hr]; rfl
      rw [List.dropWhile_cons_of_neg (by simp [h.last c hlast]), ← hr, List.reverse_reverse]
  rw [trim, hstart, hend]

theorem mem_of_mem_trim {c : Char} {cs : List Char} (h : c ∈ trim cs) : c ∈ cs :=
  (List.dropWhile_suffix isBlank).subset ((prefix_trimEnd _).subset h)

/-- Only the ends matter. -/
theorem Trimmed.join {front back : List Char} (hfront : Trimmed front) (hback : Trimmed back)
    (hf : front ≠ []) (hb : back ≠ []) (middle : List Char) : Trimmed (front ++ (middle ++ back)) := by
  constructor
  · obtain ⟨a, rest, rfl⟩ := List.exists_cons_of_ne_nil hf
    exact fun c hc => hfront.head c hc
  · intro c hc
    rw [← List.append_assoc, List.getLast?_append] at hc
    cases hlast : back.getLast? with
    | none => exact absurd (List.getLast?_eq_none_iff.mp hlast) hb
    | some b =>
      rw [hlast] at hc
      exact hback.last c (hlast.trans hc)

/-- Blanks behind a solid word are trimmed off. -/
theorem trim_append_space {w : List Char} (h : Solid w) : trim (w ++ [' ']) = w := by
  have hend : trimEnd (w ++ [' ']) = w := by
    have hw := h.trimmed.trim_eq
    cases w with
    | nil => decide
    | cons c rest =>
      have hstart : trimStart (c :: rest) = c :: rest := by
        simp [trimStart, h c (List.mem_cons_self ..)]
      rw [trim, hstart] at hw
      unfold trimEnd at hw ⊢
      rw [List.reverse_append]
      exact hw
  cases w with
  | nil => decide
  | cons c rest =>
    rw [trim, trimStart, List.cons_append,
      List.dropWhile_cons_of_neg (by simp [h c (List.mem_cons_self ..)])]
    exact hend

/-! ### The first word and the rest -/

theorem splitFirst_of_solid {w : List Char} (h : Solid w) : splitFirst w = (w, []) := by
  have hw : ∀ c ∈ w, (!isBlank c) = true := fun c hc => by simp [h c hc]
  have htake : w.takeWhile (fun c => !isBlank c) = w := by
    have happ : (w ++ []).takeWhile (fun c => !isBlank c) = w ++ [] :=
      List.takeWhile_append_of_pos hw
    rwa [List.append_nil] at happ
  have hdrop : w.dropWhile (fun c => !isBlank c) = [] := by
    have := List.takeWhile_append_dropWhile (p := fun c => !isBlank c) (l := w)
    rw [htake] at this
    exact List.append_right_eq_self.mp this
  rw [splitFirst, htake, hdrop]
  rfl

theorem splitFirst_append {w : List Char} (h : Solid w) {b : Char} (hb : isBlank b = true)
    (rest : List Char) : splitFirst (w ++ b :: rest) = (w, trim rest) := by
  have hw : ∀ c ∈ w, (!isBlank c) = true := fun c hc => by simp [h c hc]
  simp [splitFirst, List.takeWhile_append_of_pos hw, List.dropWhile_append_of_pos hw, hb]

theorem splitFirst_rest_trimmed (cs : List Char) : Trimmed (splitFirst cs).2 := trim_trimmed _

theorem mem_of_mem_splitFirst_rest {c : Char} {cs : List Char} (h : c ∈ (splitFirst cs).2) :
    c ∈ cs :=
  (List.dropWhile_suffix _).subset (List.mem_of_mem_drop (mem_of_mem_trim h))

/-! ### All words -/

theorem words_of_solid {w : List Char} (h : Solid w) (hne : w ≠ []) : words w = [w] := by
  rw [words, List.splitOnP_eq_singleton h]
  simp [hne]

/-- A blank belongs to no word and divides those in front of it from those behind it. -/
theorem words_append_blank (front : List Char) {b : Char} (hb : isBlank b = true) (rest : List Char) :
    words (front ++ b :: rest) = words front ++ words rest := by
  rw [words, List.splitOnP_append_cons _ _ hb, List.filter_append]
  rfl

theorem words_append {w : List Char} (h : Solid w) (hne : w ≠ []) {b : Char} (hb : isBlank b = true)
    (rest : List Char) : words (w ++ b :: rest) = w :: words rest := by
  rw [words_append_blank w hb, words_of_solid h hne]
  rfl

theorem words_blanks_append {gap : List Char} (h : ∀ c ∈ gap, isBlank c = true) (rest : List Char) :
    words (gap ++ rest) = words rest := by
  induction gap with
  | nil => rfl
  | cons b gap ih =>
    obtain ⟨hb, hgap⟩ := List.forall_mem_cons.mp h
    exact (words_append_blank [] hb (gap ++ rest)).trans (ih hgap)

/-- Nor does a gap of blanks, however wide it is. -/
theorem words_append_gap (front : List Char) {gap : List Char} (h : ∀ c ∈ gap, isBlank c = true) (hne : gap ≠ [])
    (rest : List Char) : words (front ++ gap ++ rest) = words front ++ words rest := by
  obtain ⟨b, gap, rfl⟩ := List.exists_cons_of_ne_nil hne
  obtain ⟨hb, hgap⟩ := List.forall_mem_cons.mp h
  rw [List.append_assoc, List.cons_append, words_append_blank front hb, words_blanks_append hgap]

/-- No piece of a text cut at some characters holds one of them. -/
theorem not_mem_splitOnP {p : Char → Bool} (cs : List Char) :
    ∀ w ∈ cs.splitOnP p, ∀ c ∈ w, p c = false := by
  induction cs with
  | nil => simp [List.splitOnP_nil]
  | cons x xs ih =>
    intro w hw c hc
    rw [List.splitOnP_cons_eq_if_modifyHead] at hw
    split at hw
    next hx =>
      rcases List.mem_cons.mp hw with rfl | hw
      · exact absurd hc List.not_mem_nil
      · exact ih w hw c hc
    next hx =>
      obtain ⟨r, rs, hr⟩ := List.exists_cons_of_ne_nil (List.splitOnP_ne_nil p xs)
      rw [hr, List.modifyHead_cons] at hw
      rw [hr] at ih
      rcases List.mem_cons.mp hw with rfl | hw
      · rcases List.mem_cons.mp hc with rfl | hc
        · exact Bool.eq_false_iff.mpr hx
        · exact ih r (List.mem_cons_self ..) c hc
      · exact ih w (List.mem_cons_of_mem r hw) c hc

end SwitchBench.Text
