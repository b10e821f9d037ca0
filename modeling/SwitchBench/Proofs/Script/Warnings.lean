import SwitchBench.Proofs.Script.Accounts

/-! What a warning costs.

A line that is warned of is left out whole: it adds no step, binds no alias and does not begin the
main part, so that no other line is read differently for it. The same goes for a line that says
nothing (`Reading.Idle`). So a script may lose all the lines it is warned of, and any of those that
say nothing, and still comes to the same batch, of which nothing is warned any more
(**`Reading.ofText_remaining`**). Every line is warned of once at most, in the order of the lines. -/
namespace SwitchBench

/-- What is left of lines, the first of which has the number `n`, without those that are gone. -/
def Text.remaining (gone : Nat → Bool) (n : Nat) : List (List Char) → List (List Char)
  | [] => []
  | l :: rest => if gone n then remaining gone (n + 1) rest else l :: remaining gone (n + 1) rest

theorem Text.remaining_subset (gone : Nat → Bool) (n : Nat) (ls : List (List Char)) : remaining gone n ls ⊆ ls := by
  induction ls generalizing n with
  | nil => exact List.Subset.refl _
  | cons l rest ih =>
    rw [remaining]
    split
    · exact List.subset_cons_of_subset l (ih (n + 1))
    · exact List.cons_subset_cons l (ih (n + 1))

namespace Reading

/-- A line that says nothing: a blank one, a comment, or one with an unknown opcode. -/
def Idle (l : List Char) : Prop :=
  Text.trim l = [] ∨ (Text.trim l).head? = some '#' ∨ Opcode.ofWord? (Text.splitFirst (Text.trim l)).1 = none

instance : DecidablePred Idle := fun _ => inferInstanceAs (Decidable (_ ∨ _ ∨ _))

theorem Idle.line {l : List Char} (h : Idle l) (c : Context) : c.line l = .ok (c, []) := by
  by_cases hcomment : (Text.trim l).head? = some '#'
  · exact if_pos hcomment
  · obtain hblank | hcomment' | hopcode := h
    · rw [Context.line, hblank]
      rfl
    · exact absurd hcomment' hcomment
    · simp only [Context.line, if_neg hcomment, hopcode]

variable {c : Context} {n : Nat} {ls : List (List Char)}

/-- A warning is of one of the lines. -/
theorem line_of_mem_warnings {w : Warning} (h : w ∈ (ofLines c n ls).warnings) :
    n ≤ w.line ∧ w.line < n + ls.length := by
  induction ls generalizing c n with
  | nil => cases h
  | cons l rest ih =>
    rw [List.length_cons]
    unfold ofLines at h
    split at h
    · have := ih h
      omega
    · rcases List.mem_cons.mp h with rfl | h
      · exact ⟨Nat.le_refl n, by show n < _; omega⟩
      · have := ih h
        omega

/-- **The lines that are warned of come in their order**, each once. -/
theorem warnings_ordered (c : Context) (n : Nat) (ls : List (List Char)) :
    ((ofLines c n ls).warnings.map (·.line)).Pairwise (· < ·) := by
  induction ls generalizing c n with
  | nil => exact .nil
  | cons l rest ih =>
    unfold ofLines
    split
    · exact ih _ _
    · refine List.pairwise_cons.mpr ⟨fun m hm => ?_, ih _ _⟩
      obtain ⟨w, hw, rfl⟩ := List.mem_map.mp hm
      exact (line_of_mem_warnings hw).1

/-- **A line is warned of exactly if it is refused where it stands**, with the problem that it has there. -/
theorem mem_warnings_iff {t : Account} {k : Nat} {p : Problem} :
    ⟨n + k, p⟩ ∈ (ofLines t.context n ls).warnings ↔
      ∃ l, ls[k]? = some l ∧ (t.lines (ls.take k)).context.line l = .error p := by
  induction ls generalizing t n k with
  | nil => simp [ofLines]
  | cons l rest ih =>
    have hlater : ∀ {q : Problem}, ⟨n, q⟩ ∉ (ofLines (t.line l).context (n + 1) rest).warnings := by
      intro q hmem
      have := (line_of_mem_warnings hmem).1
      dsimp only at this
      omega
    cases hline : t.context.line l with
    | ok r =>
      obtain ⟨d, steps⟩ := r
      obtain ⟨hcontext, -⟩ := Account.line_of_ok hline
      rw [ofLines_cons hline]
      dsimp only
      rw [← hcontext]
      cases k with
      | zero => exact iff_of_false hlater (by simp [Account.lines, hline])
      | succ k =>
        rw [show n + (k + 1) = n + 1 + k by omega]
        exact ih
    | error q =>
      have hsame : t.line l = t := Account.line_of_error hline
      rw [hsame] at hlater
      rw [ofLines_error hline, List.mem_cons, Warning.mk.injEq]
      cases k with
      | zero => simp [hlater, hline, Account.lines, eq_comm]
      | succ k =>
        have hfirst : t.lines ((l :: rest).take (k + 1)) = t.lines (rest.take k) :=
          congrArg (·.lines (rest.take k)) hsame
        rw [hfirst, show n + (k + 1) = n + 1 + k by omega, ih]
        exact or_iff_right fun h => by omega

/-- Lines may go from a script that comes to `r`: all that are warned of, and others only if
they say nothing. -/
structure Spares (gone : Nat → Bool) (r : Reading) (n : Nat) (ls : List (List Char)) : Prop where
  warned : ∀ w ∈ r.warnings, gone w.line = true
  idle : ∀ k l, ls[k]? = some l → gone (n + k) = true → (∃ w ∈ r.warnings, w.line = n + k) ∨ Idle l

namespace Spares
variable {gone : Nat → Bool} {l : List Char} {rest : List (List Char)}

/-- What may go from the lines may go from those behind the first one. -/
theorem tail {r r' : Reading} (h : Spares gone r n (l :: rest)) (hwarnings : r'.warnings ⊆ r.warnings)
    (hlater : ∀ w ∈ r.warnings, n < w.line → w ∈ r'.warnings) : Spares gone r' (n + 1) rest where
  warned w hw := h.warned w (hwarnings hw)
  idle k m hm hgone := by
    rw [show n + 1 + k = n + (k + 1) by omega] at hgone ⊢
    obtain ⟨w, hw, hline⟩ | hidle := h.idle (k + 1) m hm hgone
    · exact .inl ⟨w, hlater w hw (by omega), hline⟩
    · exact .inr hidle

/-- **What is left is read as the whole was**, whatever the number of its first line. -/
theorem ofLines_remaining (h : Spares gone (ofLines c n ls) n ls) (m : Nat) :
    ofLines c m (Text.remaining gone n ls) = ⟨(ofLines c n ls).sequence, []⟩ := by
  induction ls generalizing c n m with
  | nil => rfl
  | cons l rest ih =>
    cases hline : c.line l with
    | ok r =>
      obtain ⟨d, steps⟩ := r
      rw [ofLines_cons hline] at h ⊢
      have hrest := ih (h.tail (List.Subset.refl _) fun w hw _ => hw)
      rw [Text.remaining]
      by_cases hgone : gone n = true
      · -- The line is not warned of, since later warnings are of later lines. So it says nothing.
        obtain ⟨w, hw, hn⟩ | hidle := h.idle 0 l rfl hgone
        · have := (line_of_mem_warnings hw).1
          omega
        · cases hline.symm.trans (hidle.line c)
          rw [if_pos hgone]
          exact hrest m
      · rw [if_neg hgone, ofLines_cons hline, hrest (m + 1)]
    | error p =>
      rw [ofLines_error hline] at h ⊢
      have hgone : gone n = true := h.warned _ (List.mem_cons_self ..)
      rw [Text.remaining, if_pos hgone]
      refine ih (h.tail (List.subset_cons_self ..) fun w hw hlater => ?_) m
      rcases List.mem_cons.mp hw with rfl | hw
      · exact absurd hlater (Nat.lt_irrefl n)
      · exact hw

end Spares

/-- **A line that is warned of is left out whole.** Of any script the lines that are refused where they
stand are warned of, each once and in their order; and a text whose lines are what is left of it, when
those are gone that are warned of, with any that say nothing, comes to the same batch with no warning,
also counted line by line. -/
theorem ofText_remaining (x : List Char) :
    (∀ k p, ⟨1 + k, p⟩ ∈ (ofText x).warnings ↔ ∃ l, (Text.lines x)[k]? = some l ∧
        (Account.start.lines ((Text.lines x).take k)).context.line l = .error p) ∧
      ((ofText x).warnings.map (·.line)).Pairwise (· < ·) ∧
      (∀ w ∈ (ofText x).warnings, 1 ≤ w.line ∧ w.line ≤ (Text.lines x).length) ∧
      ∀ gone : Nat → Bool, Spares gone (ofText x) 1 (Text.lines x) →
        (∃ y, Text.lines y = Text.remaining gone 1 (Text.lines x)) ∧
        ∀ y, Text.lines y = Text.remaining gone 1 (Text.lines x) →
          ofText y = ⟨(ofText x).sequence, []⟩ ∧ (Account.ofText y).Gives (ofText x).sequence := by
  refine ⟨fun k p => mem_warnings_iff (t := .start), warnings_ordered .start 1 _, fun w hw => ?_,
    fun gone hgone => ⟨?_, fun y hy => ?_⟩⟩
  · have := line_of_mem_warnings hw
    omega
  · exact ⟨Text.unlines _, Text.lines_unlines fun l hl => Text.not_mem_lines (Text.remaining_subset gone 1 _ hl)⟩
  · have hread : ofText y = ⟨(ofText x).sequence, []⟩ := by
      rw [ofText, hy]
      exact hgone.ofLines_remaining 1
    have hgives := Account.ofText_gives y
    rw [hread] at hgives
    exact ⟨hread, hgives⟩

/-- A delay comes before the main part and another has no number; they go, and so do a comment and
a line with an unknown opcode. -/
theorem ofText_remaining_twoDelays :
    let x := "delay 5\n# on\nmain:\nwait\ndelay soon\ndelay 7".toList
    let y := "main:\ndelay 7\n".toList
    let gone : Nat → Bool := [1, 2, 4, 5].contains
    (ofText x).warnings = [⟨1, .beforeMain "delay"⟩, ⟨5, .invalidDelay "soon"⟩] ∧
      Spares gone (ofText x) 1 (Text.lines x) ∧ Text.lines y = Text.remaining gone 1 (Text.lines x) ∧
      ofText y = ⟨(ofText x).sequence, []⟩ := by
  intro x y gone
  have hwarnings : (ofText x).warnings = [⟨1, .beforeMain "delay"⟩, ⟨5, .invalidDelay "soon"⟩] := by decide
  have hlines : Text.lines y = Text.remaining gone 1 (Text.lines x) := by decide
  have hspares : Spares gone (ofText x) 1 (Text.lines x) := by
    refine ⟨by rw [hwarnings]; decide, fun k l hl hgone => ?_⟩
    have hplace : 1 + k ∈ [1, 2, 4, 5] := List.contains_iff_mem.mp hgone
    have hk : k ∈ [0, 1, 3, 4] := by
      simp only [List.mem_cons, List.not_mem_nil, or_false] at hplace ⊢
      omega
    rw [hwarnings]
    simp only [List.mem_cons, List.not_mem_nil, or_false] at hk
    obtain rfl | rfl | rfl | rfl := hk
    · exact .inl ⟨⟨1, .beforeMain "delay"⟩, by decide, rfl⟩
    · cases hl
      exact .inr (by decide)
    · cases hl
      exact .inr (by decide)
    · exact .inl ⟨⟨5, .invalidDelay "soon"⟩, by decide, rfl⟩
  obtain ⟨-, -, -, hremaining⟩ := ofText_remaining x
  exact ⟨hwarnings, hspares, hlines, ((hremaining gone hspares).2 y hlines).1⟩

end Reading

end SwitchBench
