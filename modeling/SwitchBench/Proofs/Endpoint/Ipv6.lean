import SwitchBench.Endpoint.Ipv6

/-! The canonical text of an IPv6 address is read back.

A group is written in one to four small hexadecimal digits, so groups joined by colons come apart at the colons
again. Where zero groups are left out, the two colons in their place are the first that stand side by side
(`Ipv6.readsOver_sideText`), and the groups on both sides tell how many are missing. What is left out is a run
of zeros indeed (`Ipv6.take_append_zeros`). So the text of an address stands for that address
(**`Ipv6.ofText?_text`**). -/
namespace SwitchBench.Ipv6

/-! ### Groups -/

theorem hexDigit?_digitChar : ∀ d < 16, hexDigit? (Nat.digitChar d) = some d := by decide

theorem hexNumber?_append (acc : Nat) (front rest : List Char) :
    hexNumber? acc (front ++ rest) = (hexNumber? acc front).bind (hexNumber? · rest) := by
  induction front generalizing acc with
  | nil => rfl
  | cons c front ih =>
    rw [List.cons_append, hexNumber?, hexNumber?]
    cases hexDigit? c with
    | none => rfl
    | some d => exact ih _

/-- Hexadecimal digits are read back. -/
theorem hexNumber?_toDigits (n : Nat) : hexNumber? 0 (Nat.toDigits 16 n) = some n := by
  induction n using Nat.strongRecOn with
  | _ n ih =>
    by_cases hn : n < 16
    · rw [Nat.toDigits_of_lt_base hn, hexNumber?, hexDigit?_digitChar n hn]
      simp [hexNumber?]
    · rw [Nat.toDigits_of_base_le (by decide) (by omega), hexNumber?_append, ih (n / 16) (by omega),
        Option.bind_some, hexNumber?, hexDigit?_digitChar _ (by omega)]
      exact congrArg some (by omega)

/-- The digits that groups are written in. -/
def digits : List Char := "0123456789abcdef".toList

theorem digitChar_mem : ∀ d < 16, Nat.digitChar d ∈ digits := by decide

theorem mem_digits_of_mem_toDigits {n : Nat} {c : Char} (h : c ∈ Nat.toDigits 16 n) : c ∈ digits := by
  induction n using Nat.strongRecOn with
  | _ n ih =>
    by_cases hn : n < 16
    · rw [Nat.toDigits_of_lt_base hn] at h
      rw [List.mem_singleton.mp h]
      exact digitChar_mem n hn
    · rw [Nat.toDigits_of_base_le (by decide) (by omega)] at h
      rcases List.mem_append.mp h with h | h
      · exact ih (n / 16) (by omega) h
      · rw [List.mem_singleton.mp h]
        exact digitChar_mem _ (by omega)

theorem mem_digits {g : UInt16} {c : Char} (h : c ∈ groupText g) : c ∈ digits := mem_digits_of_mem_toDigits h

theorem groupText_ne_nil (g : UInt16) : groupText g ≠ [] := Nat.toDigits_ne_nil

theorem colon_not_mem_groupText (g : UInt16) : ':' ∉ groupText g := fun h => absurd (mem_digits h) (by decide)

theorem group?_groupText (g : UInt16) : group? (groupText g) = some g := by
  have hlength : (groupText g).length ≤ 4 :=
    (Nat.length_toDigits_le_iff (by decide) (by decide)).mpr g.toNat_lt
  rw [group?, if_pos ⟨groupText_ne_nil g, hlength⟩, groupText, hexNumber?_toDigits]
  simp

theorem groups?_map_groupText (dotted : Bool) (gs : List UInt16) : groups? dotted (gs.map groupText) = some gs := by
  induction gs with
  | nil => rfl
  | cons g gs ih =>
    cases gs with
    | nil =>
      have hdot : '.' ∉ groupText g := fun h => absurd (mem_digits h) (by decide)
      simp [groups?, hdot, group?_groupText]
    | cons g' gs =>
      simp only [List.map_cons] at ih ⊢
      simp only [groups?, group?_groupText, ih]
      rfl

/-! ### Groups joined by colons -/

theorem sideText_cons (g g' : UInt16) (gs : List UInt16) :
    sideText (g :: g' :: gs) = groupText g ++ ':' :: sideText (g' :: gs) := by
  simp [sideText, List.intercalate_cons_cons]

theorem splitOn_sideText {gs : List UInt16} (hne : gs ≠ []) : (sideText gs).splitOn ':' = gs.map groupText := by
  refine List.splitOn_intercalate ':' (fun l hl => ?_) (by simpa using hne)
  obtain ⟨g, -, rfl⟩ := List.mem_map.mp hl
  exact colon_not_mem_groupText g

/-- Joined groups begin with a digit. -/
theorem exists_sideText_eq (g : UInt16) (gs : List UInt16) :
    ∃ c rest, c ∈ digits ∧ sideText (g :: gs) = c :: rest := by
  obtain ⟨c, w, hw⟩ := List.exists_cons_of_ne_nil (groupText_ne_nil g)
  have hc : c ∈ digits := mem_digits (hw ▸ List.mem_cons_self ..)
  cases gs with
  | nil => exact ⟨c, w, hc, by simp [sideText, hw]⟩
  | cons g' gs => exact ⟨c, w ++ ':' :: sideText (g' :: gs), hc, by rw [sideText_cons, hw]; rfl⟩

theorem side?_sideText (dotted : Bool) (gs : List UInt16) : side? dotted (sideText gs) = some gs := by
  by_cases hne : gs = []
  · rw [hne]
    rfl
  · obtain ⟨g, more, rfl⟩ := List.exists_cons_of_ne_nil hne
    obtain ⟨c, rest, -, htext⟩ := exists_sideText_eq g more
    rw [side?, if_neg (by simp [htext]), splitOn_sideText hne, groups?_map_groupText]

/-- What comes before a place can be read over if it holds no two colons side by side. -/
def ReadsOver (front : List Char) : Prop :=
  ∀ rest, cutDouble? (front ++ rest) = (cutDouble? rest).map fun p => (front ++ p.1, p.2)

theorem cutDouble?_cons {c : Char} {rest : List Char} (h : c = ':' → rest.head? ≠ some ':') :
    cutDouble? (c :: rest) = (cutDouble? rest).map fun p => (c :: p.1, p.2) := by
  rw [cutDouble?]
  rintro more hc rfl
  exact h hc rfl

theorem readsOver_of_not_mem {w : List Char} (h : ':' ∉ w) : ReadsOver w := by
  induction w with
  | nil => exact fun rest => by simp
  | cons c w ih =>
    intro rest
    obtain ⟨hc, hw⟩ := List.ne_and_not_mem_of_not_mem_cons h
    rw [List.cons_append, cutDouble?_cons fun hcolon => absurd hcolon.symm hc, ih hw]
    cases cutDouble? rest <;> rfl

/-- **No two colons stand side by side in joined groups.** -/
theorem readsOver_sideText (gs : List UInt16) : ReadsOver (sideText gs) := by
  induction gs with
  | nil => exact fun rest => by simp [sideText]
  | cons g gs ih =>
    cases gs with
    | nil =>
      intro rest
      have hgroup : sideText [g] = groupText g := by simp [sideText]
      rw [hgroup]
      exact readsOver_of_not_mem (colon_not_mem_groupText g) rest
    | cons g' gs =>
      intro rest
      have hhead : (sideText (g' :: gs) ++ rest).head? ≠ some ':' := by
        obtain ⟨c, w, hc, htext⟩ := exists_sideText_eq g' gs
        rw [htext]
        rintro ⟨⟩
        exact absurd hc (by decide)
      rw [sideText_cons, List.append_assoc, readsOver_of_not_mem (colon_not_mem_groupText g), List.cons_append,
        cutDouble?_cons fun _ => hhead, ih]
      cases cutDouble? rest <;> simp

/-! ### Zeros left out -/

/-- The run that is found is one. -/
theorem longestRun_le (gs : List UInt16) : (longestRun gs).2 ≤ zeros (gs.drop (longestRun gs).1) := by
  refine List.foldlRecOn (motive := fun best : Nat × Nat => best.2 ≤ zeros (gs.drop best.1)) _ _
    (Nat.zero_le _) fun best hbest i _ => ?_
  split
  · exact Nat.le_refl _
  · exact hbest

theorem take_zeros {gs : List UInt16} {k : Nat} (h : k ≤ zeros gs) : gs.take k = List.replicate k 0 := by
  refine List.eq_replicate_iff.mpr ⟨?_, fun g hg => ?_⟩
  · have hlength : zeros gs ≤ gs.length := (List.takeWhile_prefix _).length_le
    exact List.length_take_of_le (by omega)
  · have hfront : gs.take k <+: gs.takeWhile (· = 0) := by
      refine List.prefix_of_prefix_length_le (List.take_prefix k gs) (List.takeWhile_prefix _) ?_
      exact Nat.le_trans (List.length_take_le k gs) h
    simpa using List.all_eq_true.mp List.all_takeWhile g (hfront.subset hg)

/-- **What is left out are zeros**, so it can be filled in again. -/
theorem take_append_zeros {gs : List UInt16} {start length : Nat} (h : length ≤ zeros (gs.drop start)) :
    gs.take start ++ List.replicate length 0 ++ gs.drop (start + length) = gs := by
  rw [← take_zeros h, List.append_assoc, ← List.drop_drop, List.take_append_drop, List.take_append_drop]

/-! ### Addresses -/

/-- The text of an address: all groups, or those on both sides of zeros. -/
theorem text_cases (a : Ipv6) : a.text = sideText a.groups ∨ ∃ start length, 2 ≤ length ∧
    length ≤ zeros (a.groups.drop start) ∧
      a.text = sideText (a.groups.take start) ++ ':' :: ':' :: sideText (a.groups.drop (start + length)) := by
  have hzeros := longestRun_le a.groups
  unfold text
  generalize longestRun a.groups = run at hzeros
  obtain ⟨start, length⟩ := run
  dsimp only
  split
  next htwo => exact .inr ⟨start, length, htwo, hzeros, by simp⟩
  next => exact .inl rfl

theorem ofGroups?_groups (a : Ipv6) : ofGroups? a.groups = some a := dif_pos a.length_eq

/-- **The text of an address stands for it.** -/
theorem ofText?_text (a : Ipv6) : ofText? a.text = some a := by
  obtain htext | ⟨start, length, htwo, hzeros, htext⟩ := a.text_cases
  · have hne : a.groups ≠ [] := fun h => by
      have hlength := a.length_eq
      rw [h] at hlength
      cases hlength
    have hcut : cutDouble? (sideText a.groups) = none := by
      have hover := readsOver_sideText a.groups []
      rwa [List.append_nil] at hover
    rw [htext, ofText?, hcut]
    show (groups? true ((sideText a.groups).splitOn ':')).bind ofGroups? = some a
    rw [splitOn_sideText hne, groups?_map_groupText, Option.bind_some, ofGroups?_groups]
  · have hlength : zeros (a.groups.drop start) ≤ 8 - start := by
      have hrun := (List.takeWhile_prefix (· = 0) (l := a.groups.drop start)).length_le
      rwa [List.length_drop, a.length_eq] at hrun
    have hcut := readsOver_sideText (a.groups.take start) (':' :: ':' :: sideText (a.groups.drop (start + length)))
    rw [cutDouble?, Option.map_some, List.append_nil] at hcut
    have htake : (a.groups.take start).length = start := List.length_take_of_le (by rw [a.length_eq]; omega)
    have hdrop : (a.groups.drop (start + length)).length = 8 - (start + length) := by
      rw [List.length_drop, a.length_eq]
    have hmissing : 8 - start - (8 - (start + length)) = length := by omega
    rw [htext, ofText?, hcut]
    simp only [side?_sideText, Option.bind_eq_bind, Option.bind_some, htake, hdrop, hmissing]
    rw [if_pos (by omega), take_append_zeros hzeros, ofGroups?_groups]

theorem mem_sideText {gs : List UInt16} {c : Char} (h : c ∈ sideText gs) : c = ':' ∨ c ∈ digits := by
  induction gs with
  | nil => exact absurd h (by simp [sideText])
  | cons g gs ih =>
    cases gs with
    | nil => exact .inr (mem_digits (by simpa [sideText] using h))
    | cons g' gs =>
      rw [sideText_cons] at h
      rcases List.mem_append.mp h with h | h
      · exact .inr (mem_digits h)
      · exact (List.mem_cons.mp h).elim .inl ih

/-- An address is written in digits and colons, -/
theorem mem_text {a : Ipv6} {c : Char} (h : c ∈ a.text) : c = ':' ∨ c ∈ digits := by
  obtain htext | ⟨_, _, -, -, htext⟩ := a.text_cases
  · exact mem_sideText (htext ▸ h)
  · rw [htext] at h
    rcases List.mem_append.mp h with h | h
    · exact mem_sideText h
    · rcases List.mem_cons.mp h with h | h
      · exact .inl h
      · exact (List.mem_cons.mp h).elim .inl mem_sideText

/-- and never without a colon. -/
theorem colon_mem_text (a : Ipv6) : ':' ∈ a.text := by
  obtain htext | ⟨_, _, -, -, htext⟩ := a.text_cases
  · obtain ⟨gs, hlength⟩ := a
    match gs with
    | [] | [_] => cases hlength
    | g :: g' :: gs =>
      rw [htext, sideText_cons]
      simp
  · rw [htext]
    simp

end SwitchBench.Ipv6
