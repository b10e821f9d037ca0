import SwitchBench.Proofs.Text.Pieces

/-! Words between quotes.

A word is quoted by a quote in front of it and one behind it. This takes any word that holds no quote itself,
also an empty one and one with blanks. The quotes do not end a word, so quoted words that stand right behind
one another are read as one (`joined`); only a gap of blanks keeps them apart. So the words come back from
between their quotes exactly if there is such a gap between any two of them (**`quotedWords_spread`**). -/
namespace SwitchBench.Text

/-- Words between quotes, each with the gap behind it. -/
def spread (l : List (List Char × List Char)) : List Char :=
  l.flatMap fun p => '"' :: p.1 ++ '"' :: p.2

/-- What words and the gaps behind them come to, where `begun` stands right in front of them: words without
a gap between them are one. -/
def joined (begun : Option (List Char)) : List (List Char × List Char) → List (List Char)
  | [] => begun.toList
  | (w, gap) :: rest =>
    if gap = [] then joined (some (begun.getD [] ++ w)) rest else (begun.getD [] ++ w) :: joined none rest

theorem length_joined_le (begun : Option (List Char)) (l : List (List Char × List Char)) :
    (joined begun l).length ≤ max begun.toList.length l.length := by
  induction l generalizing begun with
  | nil => exact Nat.le_max_left ..
  | cons p rest ih =>
    rw [joined]
    split
    next =>
      have := ih (some (begun.getD [] ++ p.1))
      simp only [Option.toList_some, List.length_singleton] at this
      simp only [List.length_cons]
      omega
    next =>
      have := ih none
      simp only [Option.toList_none, List.length_nil] at this
      simp only [List.length_cons]
      omega

/-- **Words stay apart exactly if there is a gap between any two.** -/
theorem joined_eq_iff (l : List (List Char × List Char)) :
    joined none l = l.map (·.1) ↔ ∀ p ∈ l.dropLast, p.2 ≠ [] := by
  induction l with
  | nil => simp [joined]
  | cons p rest ih =>
    obtain ⟨w, gap⟩ := p
    cases rest with
    | nil => by_cases hgap : gap = [] <;> simp [joined, hgap]
    | cons q more =>
      rw [joined, List.dropLast_cons_of_ne_nil (List.cons_ne_nil q more), List.forall_mem_cons]
      split
      next hgap =>
        -- One word is lost, and later words cannot make up for it.
        refine iff_of_false (fun h => ?_) fun h => h.1 hgap
        have hlength := length_joined_le (some (Option.getD none [] ++ w)) (q :: more)
        rw [h] at hlength
        simp only [List.map_cons, List.length_cons, List.length_map, Option.toList_some, List.length_nil] at hlength
        omega
      next hgap =>
        show w :: joined none (q :: more) = w :: (q :: more).map (·.1) ↔ _
        rw [List.cons_inj_right, ih]
        exact (and_iff_right hgap).symm

/-! ### Reading -/

/-- A gap ends the word in front of it, -/
theorem quotedWordsFrom_gap (begun : Option (List Char)) {gap : List Char} (hgap : ∀ c ∈ gap, isBlank c = true)
    (hne : gap ≠ []) (rest : List Char) :
    quotedWordsFrom begun false (gap ++ rest) = begun.toList.map List.reverse ++ quotedWords rest := by
  induction gap generalizing begun with
  | nil => exact absurd rfl hne
  | cons b gap ih =>
    obtain ⟨hb, hblank⟩ := List.forall_mem_cons.mp hgap
    have hquote : b ≠ '"' := by
      rintro rfl
      exact absurd hb (by decide)
    rw [List.cons_append, quotedWordsFrom, if_neg hquote, hb, Bool.not_false, Bool.and_true, if_pos rfl]
    by_cases hmore : gap = []
    · rw [hmore]
      rfl
    · rw [ih none hblank hmore]
      rfl

/-- and a word between quotes goes on with the word in front of it. -/
theorem quotedWordsFrom_quoted (begun : Option (List Char)) {w : List Char} (h : '"' ∉ w) (rest : List Char) :
    quotedWordsFrom begun false ('"' :: w ++ '"' :: rest) =
      quotedWordsFrom (some (w.reverse ++ begun.getD [])) false rest := by
  rw [List.cons_append, quotedWordsFrom, if_pos rfl, Bool.not_false, quotedWordsFrom_run h]

/-- **What quoted words are read as**, whatever the gaps between them. -/
theorem quotedWordsFrom_spread (begun : Option (List Char)) {l : List (List Char × List Char)}
    (h : ∀ p ∈ l, '"' ∉ p.1 ∧ ∀ c ∈ p.2, isBlank c = true) :
    quotedWordsFrom (begun.map List.reverse) false (spread l) = joined begun l := by
  induction l generalizing begun with
  | nil => cases begun <;> simp [spread, quotedWordsFrom, joined]
  | cons p rest ih =>
    obtain ⟨w, gap⟩ := p
    obtain ⟨⟨hw, hgap⟩, hrest⟩ := List.forall_mem_cons.mp h
    have hspread : spread ((w, gap) :: rest) = '"' :: w ++ '"' :: (gap ++ spread rest) := by
      simp [spread]
    have hbegun : w.reverse ++ (begun.map List.reverse).getD [] = (begun.getD [] ++ w).reverse := by
      cases begun <;> simp
    rw [hspread, quotedWordsFrom_quoted _ hw, hbegun, joined]
    split
    next hnone =>
      rw [hnone]
      exact ih (some (begun.getD [] ++ w)) hrest
    next hsome =>
      rw [quotedWordsFrom_gap _ hgap hsome, Option.toList_some, List.map_singleton, List.reverse_reverse]
      exact congrArg ((begun.getD [] ++ w) :: ·) (ih none hrest)

/-- **Quoting is undone by reading words.** Words that hold no quote, each between quotes, come back as they
were, in their order and with their blanks, if there are blanks between any two of them, and only then;
blanks in front and at the end do not matter. And no word that is read, from whatever text, holds a quote. -/
theorem quotedWords_spread (front : List Char) (l : List (List Char × List Char))
    (hfront : ∀ c ∈ front, isBlank c = true) (h : ∀ p ∈ l, '"' ∉ p.1 ∧ ∀ c ∈ p.2, isBlank c = true) :
    (quotedWords (front ++ spread l) = l.map (·.1) ↔ ∀ p ∈ l.dropLast, p.2 ≠ []) ∧
      ∀ cs, ∀ w ∈ quotedWords cs, '"' ∉ w := by
  have hread : quotedWords (front ++ spread l) = joined none l := by
    by_cases hne : front = []
    · rw [hne]
      exact quotedWordsFrom_spread none h
    · have hgap := quotedWordsFrom_gap none hfront hne (spread l)
      exact hgap.trans (quotedWordsFrom_spread none h)
  refine ⟨?_, fun cs w hw hquote => (mem_quotedWords hw '"' hquote).2 rfl⟩
  rw [hread]
  exact joined_eq_iff l

/-- A word with blanks of its own, an empty one and one that is no more than a blank, with a tab, a no-break
space and a line feed between them. -/
theorem quotedWords_spread_three :
    let l := [("COM 7".toList, ['\t', ' ']), ([], ['\u00a0', '\n']), ([' '], [])]
    (∀ p ∈ l, '"' ∉ p.1 ∧ ∀ c ∈ p.2, isBlank c = true) ∧ (∀ p ∈ l.dropLast, p.2 ≠ []) ∧
      quotedWords (spread l) = ["COM 7".toList, [], [' ']] := by
  intro l
  have hl : ∀ p ∈ l, '"' ∉ p.1 ∧ ∀ c ∈ p.2, isBlank c = true := by simp [l, isBlank]
  have hgaps : ∀ p ∈ l.dropLast, p.2 ≠ [] := by decide
  exact ⟨hl, hgaps, (quotedWords_spread [] l (by simp) hl).1.mpr hgaps⟩

end SwitchBench.Text
