import SwitchBench.Switch.Id

/-! Values kept per switch.

A roster holds at most one value for each identifier and lists its entries in
ascending order of identifier. The order makes it canonical: two rosters that
answer every look-up alike are equal. -/
namespace SwitchBench

structure Roster (α : Type) where
  entries : List (SwitchId × α)
  ordered : entries.Pairwise fun a b => a.1 < b.1
deriving DecidableEq

namespace Roster
variable {α : Type}

def empty : Roster α := ⟨[], .nil⟩

def get? (r : Roster α) (id : SwitchId) : Option α := (r.entries.find? fun e => e.1 == id).map (·.2)

def contains (r : Roster α) (id : SwitchId) : Bool := (r.get? id).isSome

def ids (r : Roster α) : List SwitchId := r.entries.map (·.1)

/-- The entries with `id` bound to `v`, in place of an earlier binding. -/
def place (id : SwitchId) (v : α) : List (SwitchId × α) → List (SwitchId × α)
  | [] => [(id, v)]
  | e :: rest =>
    if id < e.1 then (id, v) :: e :: rest
    else if id = e.1 then (id, v) :: rest
    else e :: place id v rest

theorem mem_place {id : SwitchId} {v : α} {es : List (SwitchId × α)} {e : SwitchId × α}
    (h : e ∈ place id v es) : e = (id, v) ∨ e ∈ es := by
  induction es with
  | nil => simpa [place] using h
  | cons f rest ih =>
    unfold place at h
    split at h
    · simpa using h
    · split at h
      · rcases List.mem_cons.mp h with rfl | h
        · exact .inl rfl
        · exact .inr (List.mem_cons_of_mem _ h)
      · rcases List.mem_cons.mp h with rfl | h
        · exact .inr (List.mem_cons_self ..)
        · exact (ih h).imp (fun he => he) (List.mem_cons_of_mem _)

theorem place_ordered (id : SwitchId) (v : α) {es : List (SwitchId × α)}
    (h : es.Pairwise fun a b => a.1 < b.1) : (place id v es).Pairwise fun a b => a.1 < b.1 := by
  induction es with
  | nil => exact List.pairwise_singleton ..
  | cons f rest ih =>
    obtain ⟨hf, hrest⟩ := List.pairwise_cons.mp h
    unfold place
    split
    next hlt =>
      refine List.pairwise_cons.mpr ⟨fun a ha => ?_, h⟩
      rcases List.mem_cons.mp ha with rfl | ha
      · exact hlt
      · exact SwitchId.lt_trans hlt (hf a ha)
    next hlt =>
      split
      next heq => exact List.pairwise_cons.mpr ⟨fun a ha => heq ▸ hf a ha, hrest⟩
      next hne =>
        refine List.pairwise_cons.mpr ⟨fun a ha => ?_, ih hrest⟩
        rcases mem_place ha with rfl | ha
        · exact SwitchId.lt_of_not_lt hlt hne
        · exact hf a ha

/-- Binds `id` to `v`. -/
def set (r : Roster α) (id : SwitchId) (v : α) : Roster α :=
  ⟨place id v r.entries, place_ordered id v r.ordered⟩

/-- Without an entry for `id`. -/
def erase (r : Roster α) (id : SwitchId) : Roster α :=
  ⟨r.entries.filter fun e => e.1 != id, r.ordered.filter _⟩

/-- The bindings of a list, where a later one for the same identifier wins. -/
def ofList (es : List (SwitchId × α)) : Roster α := es.foldl (fun r e => r.set e.1 e.2) empty

/-! ### Look-ups -/

@[simp] theorem get?_empty (id : SwitchId) : (empty : Roster α).get? id = none := rfl

private theorem find?_place_self (id : SwitchId) (v : α) (es : List (SwitchId × α)) :
    (place id v es).find? (fun e => e.1 == id) = some (id, v) := by
  induction es with
  | nil => simp [place]
  | cons f rest ih =>
    unfold place
    split
    · simp
    · split
      · simp
      next hne => rw [List.find?_cons_of_neg (by simpa using Ne.symm hne), ih]

private theorem find?_place_ne {id k : SwitchId} (hk : k ≠ id) (v : α) (es : List (SwitchId × α)) :
    (place id v es).find? (fun e => e.1 == k) = es.find? (fun e => e.1 == k) := by
  induction es with
  | nil => simp [place, Ne.symm hk]
  | cons f rest ih =>
    unfold place
    split
    · rw [List.find?_cons_of_neg (by simpa using Ne.symm hk)]
    · split
      next heq =>
        rw [List.find?_cons_of_neg (by simpa using Ne.symm hk),
          List.find?_cons_of_neg (by simpa [← heq] using Ne.symm hk)]
      · by_cases hf : f.1 = k
        · simp [hf]
        · rw [List.find?_cons_of_neg (by simpa using hf), List.find?_cons_of_neg (by simpa using hf), ih]

theorem get?_set (r : Roster α) (id k : SwitchId) (v : α) :
    (r.set id v).get? k = if k = id then some v else r.get? k := by
  by_cases h : k = id
  · subst h; simp [get?, set, find?_place_self]
  · simp [get?, set, find?_place_ne h, h]

theorem get?_erase (r : Roster α) (id k : SwitchId) :
    (r.erase id).get? k = if k = id then none else r.get? k := by
  unfold get? erase
  rw [List.find?_filter]
  by_cases h : k = id
  · subst h
    rw [if_pos rfl, List.find?_eq_none.mpr, Option.map_none]
    rintro ⟨i, a⟩ -
    simp
  · rw [if_neg h]
    congr 2
    funext e
    by_cases he : e.1 = k
    · simp [he, h]
    · simp [he]

@[simp] theorem get?_set_self (r : Roster α) (id : SwitchId) (v : α) : (r.set id v).get? id = some v := by
  simp [get?_set]

private theorem find?_of_mem {es : List (SwitchId × α)} (hes : es.Pairwise fun a b => a.1 < b.1)
    {id : SwitchId} {v : α} (h : (id, v) ∈ es) : es.find? (fun e => e.1 == id) = some (id, v) := by
  induction es with
  | nil => exact absurd h List.not_mem_nil
  | cons f rest ih =>
    obtain ⟨hf, hrest⟩ := List.pairwise_cons.mp hes
    rcases List.mem_cons.mp h with rfl | h
    · simp
    · have hlt : f.1 < id := hf _ h
      have hne : f.1 ≠ id := fun he => SwitchId.lt_irrefl id (he ▸ hlt)
      rw [List.find?_cons_of_neg (by simpa using hne)]
      exact ih hrest h

/-- A look-up finds the entries and nothing else. -/
theorem get?_eq_some_iff (r : Roster α) {id : SwitchId} {v : α} :
    r.get? id = some v ↔ (id, v) ∈ r.entries := by
  constructor
  · intro h
    obtain ⟨⟨k, w⟩, hfound, rfl⟩ := Option.map_eq_some_iff.mp h
    have hk : k = id := by simpa using List.find?_some hfound
    exact hk ▸ List.mem_of_find?_eq_some hfound
  · intro h
    rw [get?, find?_of_mem r.ordered h, Option.map_some]

theorem mem_ids_iff (r : Roster α) {id : SwitchId} : id ∈ r.ids ↔ ∃ v, r.get? id = some v := by
  simp only [ids, List.mem_map, get?_eq_some_iff]
  constructor
  · rintro ⟨⟨k, v⟩, hmem, rfl⟩
    exact ⟨v, hmem⟩
  · rintro ⟨v, hmem⟩
    exact ⟨(id, v), hmem, rfl⟩

theorem ids_ordered (r : Roster α) : r.ids.Pairwise (· < ·) := List.pairwise_map.mpr r.ordered

private theorem place_of_mem {es : List (SwitchId × α)} (hes : es.Pairwise fun a b => a.1 < b.1)
    {id : SwitchId} {v : α} (h : (id, v) ∈ es) : place id v es = es := by
  induction es with
  | nil => exact absurd h List.not_mem_nil
  | cons f rest ih =>
    obtain ⟨hf, hrest⟩ := List.pairwise_cons.mp hes
    unfold place
    rcases List.mem_cons.mp h with rfl | h
    · simp [SwitchId.lt_irrefl]
    · have hlt : f.1 < id := hf _ h
      have hnot : ¬ id < f.1 := fun hgt => SwitchId.lt_irrefl id (SwitchId.lt_trans hgt hlt)
      have hne : id ≠ f.1 := fun he => SwitchId.lt_irrefl id (he ▸ hlt)
      rw [if_neg hnot, if_neg hne, ih hrest h]

/-- Binding an identifier to the value that it has changes nothing. -/
theorem set_of_get? {r : Roster α} {id : SwitchId} {v : α} (h : r.get? id = some v) :
    r.set id v = r := by
  have hplace := place_of_mem r.ordered (r.get?_eq_some_iff.mp h)
  cases r with
  | mk es hes => simp only [set, hplace]

private theorem place_place (id : SwitchId) (v w : α) (es : List (SwitchId × α)) :
    place id v (place id w es) = place id v es := by
  induction es with
  | nil => simp [place, SwitchId.lt_irrefl]
  | cons f rest ih =>
    by_cases hlt : id < f.1
    · simp [place, hlt, SwitchId.lt_irrefl]
    · by_cases heq : id = f.1
      · simp [place, ← heq, SwitchId.lt_irrefl]
      · simp [place, hlt, heq, ih]

/-- The latest binding counts. -/
theorem set_set (r : Roster α) (id : SwitchId) (v w : α) : (r.set id w).set id v = r.set id v := by
  simp only [set, place_place]

/-- Two rosters that answer every look-up alike are equal. -/
theorem eq_of_get? {r t : Roster α} (h : ∀ id, r.get? id = t.get? id) : r = t := by
  have hnodup : ∀ u : Roster α, u.entries.Nodup := fun u => u.ordered.imp fun {a b} hlt (heq : a = b) =>
    SwitchId.lt_irrefl b.1 (heq ▸ hlt)
  have hmem : ∀ e, e ∈ r.entries ↔ e ∈ t.entries := fun e => by
    rw [← r.get?_eq_some_iff, ← t.get?_eq_some_iff, h]
  have hentries : r.entries = t.entries :=
    ((List.perm_ext_iff_of_nodup (hnodup r) (hnodup t)).mpr hmem).eq_of_pairwise
      (fun a b _ _ hab hba => absurd (SwitchId.lt_trans hab hba) (SwitchId.lt_irrefl _))
      r.ordered t.ordered
  cases r
  cases t
  cases hentries
  rfl

private theorem get?_foldl_set (es : List (SwitchId × α)) (r : Roster α) {id : SwitchId} {v : α}
    (h : (es.foldl (fun r e => r.set e.1 e.2) r).get? id = some v) : (id, v) ∈ es ∨ r.get? id = some v := by
  induction es generalizing r with
  | nil => exact .inr h
  | cons e rest ih =>
    rcases ih _ h with hmem | hget
    · exact .inl (List.mem_cons_of_mem _ hmem)
    · rw [get?_set] at hget
      split at hget
      next heq =>
        cases hget
        exact .inl (heq ▸ List.mem_cons_self ..)
      next => exact .inr hget

/-- What a roster of a list binds is in the list. -/
theorem mem_of_get?_ofList {es : List (SwitchId × α)} {id : SwitchId} {v : α}
    (h : (ofList es).get? id = some v) : (id, v) ∈ es :=
  (get?_foldl_set es empty h).resolve_right (by simp)

private theorem isSome_get?_foldl_set (es : List (SwitchId × α)) (r : Roster α) {id : SwitchId}
    (h : (∃ v, (id, v) ∈ es) ∨ (r.get? id).isSome = true) :
    ((es.foldl (fun r e => r.set e.1 e.2) r).get? id).isSome = true := by
  induction es generalizing r with
  | nil => exact h.resolve_left fun hnone => absurd hnone.choose_spec List.not_mem_nil
  | cons e rest ih =>
    apply ih
    rcases h with ⟨v, hmem⟩ | hbound
    · rcases List.mem_cons.mp hmem with rfl | hrest
      · exact .inr (by simp)
      · exact .inl ⟨v, hrest⟩
    · exact .inr (by rw [get?_set]; split <;> simp [hbound])

/-- A roster of a list binds just what the list names. -/
theorem mem_ids_ofList_iff {es : List (SwitchId × α)} {id : SwitchId} :
    id ∈ (ofList es).ids ↔ ∃ v, (id, v) ∈ es := by
  rw [mem_ids_iff]
  constructor
  · rintro ⟨v, hv⟩
    exact ⟨v, mem_of_get?_ofList hv⟩
  · intro h
    exact Option.isSome_iff_exists.mp (isSome_get?_foldl_set es empty (.inl h))

private theorem get?_foldl_set_eq (es : List (SwitchId × α)) (r : Roster α) (id : SwitchId) :
    (es.foldl (fun r e => r.set e.1 e.2) r).get? id =
      (((es.filter fun e => e.1 == id).getLast?).map (·.2)).or (r.get? id) := by
  induction es generalizing r with
  | nil => rfl
  | cons e rest ih =>
    rw [List.foldl_cons, ih, get?_set]
    by_cases he : e.1 = id
    · rw [List.filter_cons_of_pos (by simpa using he), if_pos he.symm, List.getLast?_cons]
      cases (rest.filter fun e => e.1 == id).getLast? <;> rfl
    · rw [List.filter_cons_of_neg (by simpa using he), if_neg (Ne.symm he)]

/-- A roster of a list binds an identifier to the last value that the list has for it. -/
theorem get?_ofList (es : List (SwitchId × α)) (id : SwitchId) :
    (ofList es).get? id = ((es.filter fun e => e.1 == id).getLast?).map (·.2) :=
  (get?_foldl_set_eq es empty id).trans Option.or_none

end Roster

end SwitchBench
