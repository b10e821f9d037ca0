import Mathlib.Logic.Relation
import SwitchBench.Proofs.Text.Numerals

/-! Spellings of a word.

A word is spelled anew by adding or removing blanks around it and by changing the case of its
ASCII letters. Neither changes what is left of it once it is trimmed and in small letters, and
a numeral is not changed by letter case at all. -/
namespace SwitchBench.Text

/-! ### Letter case -/

/-- What holds of every capital and its small letter, and of every character beside itself, holds
of every character and what it is in small letters. -/
theorem toLower_cases {P : Char → Char → Prop}
    (hcapital : ∀ n < 26, P (.ofNat (65 + n)) (Char.ofNat (65 + n)).toLower)
    (hsame : ∀ c, P c c) (c : Char) : P c c.toLower := by
  by_cases h : c.val ≥ 'A'.val ∧ c.val ≤ 'Z'.val
  · have hlow : 65 ≤ c.toNat := UInt32.le_iff_toNat_le.mp h.1
    have hhigh : c.toNat ≤ 90 := UInt32.le_iff_toNat_le.mp h.2
    have hc := hcapital (c.toNat - 65) (by omega)
    rwa [Nat.add_sub_cancel' hlow, Char.ofNat_toNat] at hc
  · rw [show c.toLower = c from dif_neg h]
    exact hsame c

theorem isBlank_toLower (c : Char) : isBlank c.toLower = isBlank c :=
  toLower_cases (P := fun c d => isBlank d = isBlank c) (by decide) (fun _ => rfl) c

theorem isDigit_toLower (c : Char) : c.toLower.isDigit = c.isDigit :=
  toLower_cases (P := fun c d => d.isDigit = c.isDigit) (by decide) (fun _ => rfl) c

theorem toLower_eq_plus_iff (c : Char) : c.toLower = '+' ↔ c = '+' :=
  toLower_cases (P := fun c d => d = '+' ↔ c = '+') (by decide) (fun _ => Iff.rfl) c

/-- Blanks are the same in any case. -/
theorem trim_lower (cs : List Char) : trim (lower cs) = lower (trim cs) := by
  have hblank : isBlank ∘ Char.toLower = isBlank := funext isBlank_toLower
  simp only [trim, trimEnd, trimStart, lower, List.dropWhile_map, ← List.map_reverse, hblank]

theorem dropPlus_lower (cs : List Char) : dropPlus (lower cs) = lower (dropPlus cs) := by
  cases cs with
  | nil => rfl
  | cons c rest =>
    by_cases h : c = '+'
    · rw [h]
      rfl
    · have hsame : ∀ {d : Char} (ds : List Char), d ≠ '+' → dropPlus (d :: ds) = d :: ds := by
        intro d ds hd
        unfold dropPlus
        split
        next heq => exact absurd (List.cons.inj heq).1 hd
        next => rfl
      rw [hsame rest h]
      exact hsame (lower rest) fun hlower => h ((toLower_eq_plus_iff c).mp hlower)

/-- **A numeral is the same in any case.** -/
theorem numeral?_lower (bound : Nat) (cs : List Char) : numeral? bound (lower cs) = numeral? bound cs := by
  have hall : ∀ ds, (lower ds).all Char.isDigit = ds.all Char.isDigit := fun ds => by
    rw [lower, List.all_map]
    exact congrArg (ds.all ·) (funext isDigit_toLower)
  simp only [numeral?, dropPlus_lower]
  by_cases hdigits : (dropPlus cs).all Char.isDigit = true
  · have hlower : lower (dropPlus cs) = dropPlus cs :=
      (List.map_congr_left fun _ hc => toLower_of_isDigit (List.all_eq_true.mp hdigits _ hc)).trans (List.map_id _)
    rw [hlower]
  · rw [if_neg fun h => hdigits ((hall _).symm.trans h.2.1), if_neg fun h => hdigits h.2.1]

theorem byte?_congr {a b : List Char} (h : lower a = lower b) : byte? a = byte? b := by
  rw [byte?, byte?, ← numeral?_lower, h, numeral?_lower]

/-! ### Blanks around a word -/

/-- One text is another with blanks in front of it and behind it. -/
def Pads (a b : List Char) : Prop :=
  ∃ front back, (∀ c ∈ front, isBlank c = true) ∧ (∀ c ∈ back, isBlank c = true) ∧ b = front ++ a ++ back

/-- Two texts differ in the case of ASCII letters at most. -/
def Recases (a b : List Char) : Prop := lower a = lower b

/-- Blanks are added and removed around a text. -/
def Repadded : List Char → List Char → Prop := Relation.EqvGen Pads

/-- Blanks are added and removed around a word, and the case of its ASCII letters is changed. -/
def Respelled : List Char → List Char → Prop := Relation.EqvGen fun a b => Pads a b ∨ Recases a b

theorem trimEnd_append_blanks (cs : List Char) {back : List Char} (h : ∀ c ∈ back, isBlank c = true) :
    trimEnd (cs ++ back) = trimEnd cs := by
  rw [trimEnd, List.reverse_append, List.dropWhile_append_of_pos fun c hc => h c (List.mem_reverse.mp hc), trimEnd]

/-- **Trimming takes the blanks around a text away.** -/
theorem trim_of_pads {a b : List Char} (h : Pads a b) : trim b = trim a := by
  obtain ⟨front, back, hfront, hback, rfl⟩ := h
  rw [trim, trimStart, List.append_assoc, List.dropWhile_append_of_pos hfront, List.dropWhile_append]
  split
  next hempty =>
    have ha : trimStart a = [] := List.isEmpty_iff.mp hempty
    have hnone : back.dropWhile isBlank = [] := by
      rw [← List.append_nil back, List.dropWhile_append_of_pos hback]
      rfl
    rw [hnone, trim, ha]
  next => exact trimEnd_append_blanks _ hback

/-- What is trimmed off are blanks. -/
theorem pads_trim (cs : List Char) : Pads (trim cs) cs := by
  have hblank : ∀ (ds : List Char), ∀ c ∈ ds.takeWhile isBlank, isBlank c = true := fun ds c hc =>
    List.all_eq_true.mp List.all_takeWhile c hc
  refine ⟨cs.takeWhile isBlank, ((trimStart cs).reverse.takeWhile isBlank).reverse, hblank cs,
    fun c hc => hblank _ c (List.mem_reverse.mp hc), ?_⟩
  rw [List.append_assoc, trim, trimEnd, ← List.reverse_append, List.takeWhile_append_dropWhile, List.reverse_reverse,
    trimStart, List.takeWhile_append_dropWhile]

/-- The blanks around a text belong to no word. -/
theorem words_trim (cs : List Char) : words (trim cs) = words cs := by
  obtain ⟨front, back, hfront, hback, hcs⟩ := pads_trim cs
  have hend : words (trim cs ++ back) = words (trim cs) := by
    by_cases hne : back = []
    · rw [hne, List.append_nil]
    · have hgap := words_append_gap (trim cs) hback hne []
      rwa [List.append_nil, show words [] = [] from rfl, List.append_nil] at hgap
  calc words (trim cs) = words (front ++ (trim cs ++ back)) := by rw [words_blanks_append hfront, hend]
    _ = words cs := by rw [← List.append_assoc, ← hcs]

/-- **Texts that differ in the blanks around them** are the same once they are trimmed. -/
theorem repadded_iff {a b : List Char} : Repadded a b ↔ trim a = trim b := by
  constructor
  · intro h
    induction h with
    | rel _ _ h => exact (trim_of_pads h).symm
    | refl _ => rfl
    | symm _ _ _ ih => exact ih.symm
    | trans _ _ _ _ _ ih ih' => exact ih.trans ih'
  · intro h
    exact ((Relation.EqvGen.rel _ _ (pads_trim a)).symm).trans _ _ _ (h ▸ .rel _ _ (pads_trim b))

/-- **Spellings of a word** are the same once they are trimmed and in small letters. -/
theorem respelled_iff {a b : List Char} : Respelled a b ↔ lower (trim a) = lower (trim b) := by
  constructor
  · intro h
    induction h with
    | rel _ _ h =>
      rcases h with hpads | hcase
      · rw [trim_of_pads hpads]
      · rw [← trim_lower, ← trim_lower, show lower _ = lower _ from hcase]
    | refl _ => rfl
    | symm _ _ _ ih => exact ih.symm
    | trans _ _ _ _ _ ih ih' => exact ih.trans ih'
  · intro h
    have hstart : Respelled a (trim a) := (Relation.EqvGen.rel _ _ (.inl (pads_trim a))).symm
    have hcase : Respelled (trim a) (trim b) := .rel _ _ (.inr h)
    exact (hstart.trans _ _ _ hcase).trans _ _ _ (.rel _ _ (.inl (pads_trim b)))

end SwitchBench.Text
