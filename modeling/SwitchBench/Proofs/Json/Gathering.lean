import Mathlib.Data.List.Forall2
import SwitchBench.Proofs.Json.Layouts

/-! What a layout gives a record.

Where each field has a value of its own, the members of an object and the items of an array give it to
the same slots, in whatever order they come (`gathered`): members that repeat no field fit
(`fits_of_values`), and so do the first items (`fitsByPlace_of_values`). -/
namespace SwitchBench.Json.Record

variable {fields : List Field} {value : String → Json} {slots : List (Option Json)} {names : List String}
  {name : String}

/-- No two fields bear the same name. -/
def Distinct (fields : List Field) : Prop := ∀ i f, fields[i]? = some f → fieldOf fields f.name = some i

/-- The slots when the fields of some names have their values. -/
def gathered (fields : List Field) (value : String → Json) (names : List String) (slots : List (Option Json)) :
    List (Option Json) :=
  List.zipWith (fun f slot => if f.name ∈ names then some (value f.name) else slot) fields slots

theorem gathered_nil (hlength : slots.length = fields.length) : gathered fields value [] slots = slots := by
  refine List.ext_getElem (by simp [gathered, hlength]) fun i _ _ => ?_
  simp [gathered]

/-- A name that no field bears adds nothing. -/
theorem gathered_cons_of_unknown (hname : ∀ f ∈ fields, f.name ≠ name) :
    gathered fields value (name :: names) slots = gathered fields value names slots := by
  refine List.ext_getElem (by simp [gathered]) fun j hj _ => ?_
  have hlt : j < fields.length := by simp [gathered] at hj; omega
  have hne : fields[j].name ≠ name := hname _ (List.getElem_mem _)
  simp [gathered, hne]

/-- The value of the first name goes to its slot. -/
theorem gathered_cons {i : Nat} {f : Field} (hdistinct : Distinct fields) (hf : fields[i]? = some f) :
    gathered fields value (f.name :: names) slots =
      gathered fields value names (slots.set i (some (value f.name))) := by
  refine List.ext_getElem (by simp [gathered]) fun j hj _ => ?_
  have hlt : j < fields.length := by simp [gathered] at hj; omega
  have hi := hdistinct i f hf
  obtain ⟨hlt', rfl⟩ := List.getElem?_eq_some_iff.mp hf
  by_cases hij : i = j
  · subst hij
    simp [gathered]
  · have hne : fields[j].name ≠ fields[i].name := fun he => by
      have hj := hdistinct j _ (List.getElem?_eq_getElem hlt)
      rw [he, hi] at hj
      exact hij (Option.some.inj hj)
    simp [gathered, hne, hij]

theorem field_of_fieldOf {i : Nat} (h : fieldOf fields name = some i) : ∃ f, fields[i]? = some f ∧ f.name = name := by
  obtain ⟨hi, hname, -⟩ := List.findIdx?_eq_some_iff_getElem.mp h
  exact ⟨fields[i], List.getElem?_eq_getElem hi, beq_iff_eq.mp hname⟩

theorem name_ne_of_fieldOf (h : fieldOf fields name = none) : ∀ f ∈ fields, f.name ≠ name := fun f hf he => by
  have hother := List.findIdx?_eq_none_iff.mp h f hf
  rw [he, beq_self_eq_true] at hother
  cases hother

/-- Members fit that give every known field its value, none of them again. -/
theorem fits_of_values (hdistinct : Distinct fields) (haccepts : ∀ f ∈ fields, f.accepts (value f.name) = true)
    (hnested : ∀ name, Nested room (value name)) {ms : List (String × List Char)}
    (hvalues : ∀ m ∈ ms, m.1 ∈ fields.map (·.name) → Spells (value m.1) m.2)
    (hothers : ∀ m ∈ ms, m.1 ∉ fields.map (·.name) → WellFormed .value m.2) (hlength : slots.length = fields.length)
    (honce : ∀ i f, fields[i]? = some f → occurrences slots i f.name ms ≤ 1) :
    Fits fields slots ms (gathered fields value (ms.map (·.1)) slots) := by
  induction ms generalizing slots with
  | nil =>
    rw [List.map_nil, gathered_nil hlength]
    exact .nil
  | cons m ms ih =>
    obtain ⟨name, cs⟩ := m
    have hvalues' := fun m hm => hvalues m (List.mem_cons_of_mem _ hm)
    have hothers' := fun m hm => hothers m (List.mem_cons_of_mem _ hm)
    have hcount : ∀ i f, fields[i]? = some f → occurrences slots i f.name ((name, cs) :: ms) =
        occurrences slots i f.name ms + if name = f.name then 1 else 0 := by
      intro i f _
      simp [occurrences, List.count_cons, Nat.add_assoc]
    cases hfound : fieldOf fields name with
    | none =>
      have hname := name_ne_of_fieldOf hfound
      have hunknown : name ∉ fields.map (·.name) := fun hmem => by
        obtain ⟨f, hf, he⟩ := List.mem_map.mp hmem
        exact hname f hf he
      refine .cons (.other hfound (hothers _ (List.mem_cons_self ..) hunknown)) ?_
      rw [List.map_cons, gathered_cons_of_unknown hname]
      exact ih hvalues' hothers' hlength fun i f hf => by
        have := honce i f hf
        rw [hcount i f hf] at this
        omega
    | some i =>
      obtain ⟨f, hf, rfl⟩ := field_of_fieldOf hfound
      have hmem : f ∈ fields := List.mem_of_getElem? hf
      have hfirst := honce i f hf
      rw [hcount i f hf, if_pos rfl] at hfirst
      have hfree : isTaken slots (some i) = false := by
        cases h : isTaken slots (some i) with
        | false => rfl
        | true => simp [occurrences, h] at hfirst
      have hspells := hvalues _ (List.mem_cons_self ..) (List.mem_map_of_mem hmem)
      refine .cons (.field hfound hf hfree hspells (hnested _) (haccepts f hmem)) ?_
      rw [List.map_cons, gathered_cons hdistinct hf]
      refine ih hvalues' hothers' (List.length_set.trans hlength) fun j g hg => ?_
      by_cases hij : i = j
      · -- The field is taken now, and it does not come again.
        subst hij
        cases hf.symm.trans hg
        have hbit := Bool.toNat_le (isTaken (slots.set i (some (value f.name))) (some i))
        simp only [occurrences] at hfirst ⊢
        omega
      · have hsame : isTaken (slots.set i (some (value f.name))) (some j) = isTaken slots (some j) := by
          simp [isTaken, hij]
        have hother := honce j g hg
        rw [hcount j g hg] at hother
        simp only [occurrences, hsame] at hother ⊢
        omega

/-- At the start nothing is taken. -/
theorem occurrences_start (i : Nat) (name : String) (ms : List (String × List Char)) :
    occurrences (fields.map fun _ => none) i name ms = (ms.map (·.1)).count name := by
  have hfree : isTaken (fields.map fun _ => none) (some i) = false := by
    simp only [isTaken, Option.bind_some, List.getElem?_map]
    cases fields[i]? <;> rfl
  rw [occurrences, hfree]
  exact Nat.zero_add _

/-- So do items that give the first fields theirs. -/
theorem fitsByPlace_of_values (hdistinct : Distinct fields)
    (haccepts : ∀ f ∈ fields, f.accepts (value f.name) = true) (hnested : ∀ name, Nested room (value name))
    {before due after : List Field} (hfields : fields = before ++ (due ++ after)) {vs : List (List Char)}
    (hvs : List.Forall₂ (fun f v => Spells (value f.name) v) due vs) (hlength : slots.length = fields.length) :
    FitsByPlace fields before.length slots vs (gathered fields value (due.map (·.name)) slots) := by
  induction hvs generalizing before slots with
  | nil =>
    rw [List.map_nil, gathered_nil hlength]
    exact .nil
  | @cons f v due vs hv _ ih =>
    have hf : fields[before.length]? = some f := by simp [hfields]
    have hnext : fields = (before ++ [f]) ++ (due ++ after) := by simp [hfields]
    rw [List.map_cons, gathered_cons hdistinct hf]
    refine .cons hf hv (hnested _) (haccepts f (List.mem_of_getElem? hf)) ?_
    have hrest := @ih (slots.set before.length (some (value f.name))) (before ++ [f]) hnext
      (List.length_set.trans hlength)
    rwa [List.length_append] at hrest

end SwitchBench.Json.Record
