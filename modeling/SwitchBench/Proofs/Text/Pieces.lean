import SwitchBench.Proofs.Text.Words
import SwitchBench.Text.Lines
import SwitchBench.Text.Quoted

/-! Lines and quoted words.

Lines that hold no line feed are read back from the text that joins them, and words
that hold no quote are read back from between quotes, blanks and all. What is read
consists of characters of the text, with the line feeds or the quotes gone. -/
namespace SwitchBench.Text

/-! ### Lines -/

theorem splitOn_append_cons {c : Char} {l : List Char} (h : c ∉ l) (rest : List Char) :
    (l ++ c :: rest).splitOn c = l :: rest.splitOn c := by
  apply List.splitOnP_append_cons_of_forall_mem
  · intro x hx
    simpa using fun he : x = c => h (he ▸ hx)
  · simp

theorem splitOn_unlines {ls : List (List Char)} (h : ∀ l ∈ ls, '\n' ∉ l) :
    (unlines ls).splitOn '\n' = ls ++ [[]] := by
  induction ls with
  | nil => simp [unlines, List.splitOn, List.splitOnP_nil]
  | cons l rest ih =>
    have hl := h l (List.mem_cons_self ..)
    have hrest := ih fun m hm => h m (List.mem_cons_of_mem l hm)
    have hcut : unlines (l :: rest) = l ++ '\n' :: unlines rest := by simp [unlines]
    rw [hcut, splitOn_append_cons hl, hrest, List.cons_append]

/-- Joined lines are read back. -/
theorem lines_unlines {ls : List (List Char)} (h : ∀ l ∈ ls, '\n' ∉ l) :
    lines (unlines ls) = ls := by
  simp [lines, splitOn_unlines h]

theorem not_mem_lines {cs l : List Char} (h : l ∈ lines cs) : '\n' ∉ l := by
  have hmem : l ∈ cs.splitOn '\n' := by
    simp only [lines] at h
    split at h
    · exact List.dropLast_subset _ h
    · exact h
  intro hc
  simpa using not_mem_splitOnP cs l hmem '\n' hc

/-! ### Quoted words -/

/-- Inside a quoted run everything up to the closing quote belongs to the word. -/
theorem quotedWordsFrom_run {w : List Char} (h : '"' ∉ w) (begun rest : List Char) :
    quotedWordsFrom (some begun) true (w ++ '"' :: rest) =
      quotedWordsFrom (some (w.reverse ++ begun)) false rest := by
  induction w generalizing begun with
  | nil => simp [quotedWordsFrom]
  | cons c w ih =>
    obtain ⟨hc, hw⟩ := List.ne_and_not_mem_of_not_mem_cons h
    simp only [List.cons_append, quotedWordsFrom, Ne.symm hc, if_false, Bool.not_true,
      Bool.and_false, Bool.false_eq_true, Option.getD_some]
    rw [ih hw]
    simp

/-- A word between quotes, in front of a blank. -/
theorem quotedWords_run_blank {w : List Char} (h : '"' ∉ w) {b : Char} (hb : isBlank b = true)
    (rest : List Char) : quotedWords ('"' :: w ++ '"' :: b :: rest) = w :: quotedWords rest := by
  have hne : b ≠ '"' := by
    rintro rfl
    exact absurd hb (by decide)
  simp only [quotedWords, List.cons_append, quotedWordsFrom, if_true, Bool.not_false,
    Option.getD_none]
  rw [quotedWordsFrom_run h]
  simp [quotedWordsFrom, hne, hb]

/-- A word between quotes at the end of the text. -/
theorem quotedWords_run {w : List Char} (h : '"' ∉ w) : quotedWords ('"' :: w ++ ['"']) = [w] := by
  simp only [quotedWords, List.cons_append, quotedWordsFrom, if_true, Bool.not_false,
    Option.getD_none]
  rw [quotedWordsFrom_run h]
  simp [quotedWordsFrom]

theorem quotedWords_blank_cons {b : Char} (hb : isBlank b = true) (cs : List Char) :
    quotedWords (b :: cs) = quotedWords cs := by
  have hne : b ≠ '"' := by
    rintro rfl
    exact absurd hb (by decide)
  simp [quotedWords, quotedWordsFrom, hne, hb]

/-- A word that is read consists of what was begun and of the text, without its quotes. -/
theorem mem_quotedWordsFrom {begun : Option (List Char)} {quoted : Bool} {cs w : List Char}
    (h : w ∈ quotedWordsFrom begun quoted cs) :
    ∀ c ∈ w, c ∈ begun.getD [] ∨ (c ∈ cs ∧ c ≠ '"') := by
  fun_induction quotedWordsFrom begun quoted cs with
  | case1 begun quoted =>
    intro c hc
    cases begun with
    | none => exact absurd h (by simp)
    | some v =>
      have hw : w = v.reverse := by simpa using h
      exact .inl (by simpa [hw] using hc)
  | case2 begun quoted rest ih =>
    intro c hc
    rcases ih h c hc with hb | ⟨hmem, hne⟩
    · exact .inl (by simpa using hb)
    · exact .inr ⟨List.mem_cons_of_mem _ hmem, hne⟩
  | case3 begun quoted x rest hx hblank ih =>
    intro c hc
    rcases List.mem_append.mp h with h | h
    · cases begun with
      | none => exact absurd h (by simp)
      | some v =>
        have hw : w = v.reverse := by simpa using h
        exact .inl (by simpa [hw] using hc)
    · rcases ih h c hc with hb | ⟨hmem, hne⟩
      · exact absurd hb (by simp)
      · exact .inr ⟨List.mem_cons_of_mem _ hmem, hne⟩
  | case4 begun quoted x rest hx hblank ih =>
    intro c hc
    rcases ih h c hc with hb | ⟨hmem, hne⟩
    · rcases List.mem_cons.mp (by simpa using hb) with rfl | hb
      · exact .inr ⟨List.mem_cons_self .., hx⟩
      · exact .inl hb
    · exact .inr ⟨List.mem_cons_of_mem _ hmem, hne⟩

theorem mem_quotedWords {cs w : List Char} (h : w ∈ quotedWords cs) :
    ∀ c ∈ w, c ∈ cs ∧ c ≠ '"' := by
  intro c hc
  rcases mem_quotedWordsFrom h c hc with hb | hb
  · exact absurd hb (by simp)
  · exact hb

end SwitchBench.Text
