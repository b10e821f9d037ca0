/-! Cutting a text in two at a character.

The cut falls at the first or at the last place where the character stands; the
character itself goes to neither side. -/
namespace SwitchBench.Text

/-- The text before the first `c` and the text after it. -/
def cutFirst? (c : Char) (cs : List Char) : Option (List Char × List Char) :=
  match cs.dropWhile (· != c) with
  | _ :: after => some (cs.takeWhile (· != c), after)
  | [] => none

/-- The text before the last `c` and the text after it. -/
def cutLast? (c : Char) (cs : List Char) : Option (List Char × List Char) :=
  (cutFirst? c cs.reverse).map fun p => (p.2.reverse, p.1.reverse)

theorem eq_of_cutFirst? {c : Char} {cs before after : List Char}
    (h : cutFirst? c cs = some (before, after)) : cs = before ++ c :: after ∧ c ∉ before := by
  unfold cutFirst? at h
  split at h
  next d a hdrop =>
    obtain ⟨rfl, rfl⟩ := Prod.mk.inj (Option.some.inj h)
    have hd : (d != c) = false := by
      simpa [hdrop] using List.head?_dropWhile_not (· != c) cs
    have hdc : c = d := Eq.symm (by simpa using hd)
    have hcs := (List.takeWhile_append_dropWhile (p := (· != c)) (l := cs)).symm
    rw [hdrop, ← hdc] at hcs
    refine ⟨hcs, fun hmem => ?_⟩
    simpa using List.all_eq_true.mp (List.all_takeWhile (p := (· != c)) (l := cs)) c hmem
  next => simp at h

/-- A cut is found wherever the character first stands. -/
theorem cutFirst?_append {c : Char} {before : List Char} (after : List Char) (h : c ∉ before) :
    cutFirst? c (before ++ c :: after) = some (before, after) := by
  have hall : ∀ a ∈ before, (a != c) = true := fun a ha => by
    simpa using fun he : a = c => h (he ▸ ha)
  simp [cutFirst?, List.takeWhile_append_of_pos hall, List.dropWhile_append_of_pos hall]

theorem cutFirst?_eq_none {c : Char} {cs : List Char} (h : c ∉ cs) : cutFirst? c cs = none := by
  cases hcut : cutFirst? c cs with
  | none => rfl
  | some p =>
    obtain ⟨hcs, -⟩ := eq_of_cutFirst? hcut
    exact absurd (hcs ▸ List.mem_append_right _ (List.mem_cons_self ..)) h

theorem cutLast?_append {c : Char} (before : List Char) {after : List Char} (h : c ∉ after) :
    cutLast? c (before ++ c :: after) = some (before, after) := by
  have hr : (before ++ c :: after).reverse = after.reverse ++ c :: before.reverse := by simp
  rw [cutLast?, hr, cutFirst?_append _ (by simpa using h)]
  simp

theorem cutLast?_eq_none {c : Char} {cs : List Char} (h : c ∉ cs) : cutLast? c cs = none := by
  rw [cutLast?, cutFirst?_eq_none (by simpa using h)]
  rfl

end SwitchBench.Text
