import SwitchBench.Proofs.Json.Gathering
import SwitchBench.Proofs.Message.Wire

/-! Requests however they are laid out.

What is read of a request does not depend on how it is written: on the order of its fields, on white
space, on how its texts are spelled, on fields that no request has, or on whether absent fields are left
out or null. It may be an object (`Request.CarriedBy`) or an array of its fields in their order. No field
may come twice, whatever the values are. -/
namespace SwitchBench

open Json (Blank Spells WellFormed ObjectText ArrayText Nested)

/-- Once a record is refused within the limit, the message is malformed. -/
theorem readMessage_of_bad {α : Type} {fields : List Json.Field} {ofSlots? : List (Option Json) → Option α}
    {front : List UInt8} (h : Json.Record.advance fields (Json.Record.start fields) front = .bad)
    (hlength : front.length ≤ messageLimit) (ending : Ending) (more : List UInt8) :
    readMessage fields ofSlots? ending (front ++ more) = .error .malformed := by
  have hbad := advance_take h (fun _ => nofun) hlength more
  simp [readMessage, Json.Record.isSettled, Json.Record.read, hbad]

namespace Request

/-- The names of the fields. -/
def names : List String := fields.map (·.name)

/-- The value of a field, null where it is absent. -/
def value (r : Request) (name : String) : Json := ((Json.object r.members).member? name).getD .null

/-- Members, each with the text of its value, carry a request: its fields are among them, each at most
once and with its own value, in any order. Absent fields are left out or null, and there may be others. -/
structure CarriedBy (r : Request) (ms : List (String × List Char)) : Prop where
  present : ∀ m ∈ r.members, m.1 ∈ ms.map (·.1)
  values : ∀ m ∈ ms, m.1 ∈ names → Spells (r.value m.1) m.2
  others : ∀ m ∈ ms, m.1 ∉ names → WellFormed .value m.2
  once : ∀ name ∈ names, (ms.map (·.1)).count name ≤ 1

/-! ### The values of the fields -/

/-- The value of a text that may be absent. -/
def textOrNull (o : Option String) : Json := (o.map Json.string).getD .null

theorem value_fields (r : Request) : r.value "ctype" = .string r.ctype ∧ r.value "cmd" = r.cmd.json ∧
    r.value "itype" = textOrNull r.itype ∧ r.value "port" = textOrNull r.port ∧
    r.value "baud" = textOrNull r.baud ∧ r.value "stat" = textOrNull r.stat := by
  cases r with
  | mk ctype cmd itype port baud stat =>
    cases itype <;> cases port <;> cases baud <;> cases stat <;> exact ⟨rfl, rfl, rfl, rfl, rfl, rfl⟩

theorem nested_members (r : Request) : ∀ m ∈ r.members, Nested Json.Record.room m.2 := by
  intro m hm
  simp only [members, List.mem_append, List.mem_cons, List.not_mem_nil, or_false, List.mem_filterMap] at hm
  rcases hm with (rfl | rfl) | ⟨p, -, hp⟩
  · exact .string _
  · exact r.cmd.json_nested
  · obtain ⟨s, -, rfl⟩ := Option.map_eq_some_iff.mp hp
    exact .string s

theorem nested_value (r : Request) (name : String) : Nested Json.Record.room (r.value name) := by
  simp only [value, Json.member?]
  cases hfound : r.members.find? fun m => m.1 == name with
  | none => exact .null
  | some m => exact r.nested_members m (List.mem_of_find?_eq_some hfound)

theorem accepts_value (r : Request) : ∀ f ∈ fields, f.accepts (r.value f.name) = true := by
  obtain ⟨hctype, hcmd, hitype, hport, hbaud, hstat⟩ := r.value_fields
  have htext : ∀ name o, (optionalText name).accepts (textOrNull o) = true := fun name o => by cases o <;> rfl
  intro f hf
  simp only [fields, List.mem_cons, List.not_mem_nil, or_false] at hf
  rcases hf with rfl | rfl | rfl | rfl | rfl | rfl
  · rw [hctype]
    rfl
  · show (CommandToken.ofJson? (r.value "cmd")).isSome = true
    rw [hcmd, r.cmd.ofJson?_json]
    rfl
  · exact (congrArg _ hitype).trans (htext ..)
  · exact (congrArg _ hport).trans (htext ..)
  · exact (congrArg _ hbaud).trans (htext ..)
  · exact (congrArg _ hstat).trans (htext ..)

theorem distinct_fields : Json.Record.Distinct fields := by
  intro i f hf
  rcases i with _ | _ | _ | _ | _ | _ | i
  all_goals cases hf
  all_goals rfl

/-- What a slot says of a text that may be absent, if the text has been written where there is one. -/
theorem text?_slot {o : Option String} {name : String} {written : List String}
    (h : ∀ s, o = some s → name ∈ written) :
    (if name ∈ written then some (textOrNull o) else none).bind Json.text? = o := by
  cases o with
  | none => split <;> rfl
  | some s => rw [if_pos (h s rfl)]; rfl

/-- **What the slots say of a request** once all its fields have been written. -/
theorem ofSlots?_gathered {r : Request} {written : List String} (hpresent : ∀ m ∈ r.members, m.1 ∈ written) :
    let slots := Json.Record.gathered fields r.value written (fields.map fun _ => none)
    Json.Record.isComplete fields slots = true ∧ ofSlots? slots = some r := by
  intro slots
  obtain ⟨hctype, hcmd, hitype, hport, hbaud, hstat⟩ := r.value_fields
  have hslots : slots = [some (.string r.ctype), some r.cmd.json,
      if "itype" ∈ written then some (textOrNull r.itype) else none,
      if "port" ∈ written then some (textOrNull r.port) else none,
      if "baud" ∈ written then some (textOrNull r.baud) else none,
      if "stat" ∈ written then some (textOrNull r.stat) else none] := by
    have hfirst : "ctype" ∈ written := hpresent _ (by rw [members_eq]; exact List.mem_cons_self ..)
    have hsecond : "cmd" ∈ written :=
      hpresent ("cmd", r.cmd.json) (by rw [members_eq]; exact List.mem_cons_of_mem _ (List.mem_cons_self ..))
    simp [slots, Json.Record.gathered, fields, optionalText, hfirst, hsecond, hctype, hcmd, hitype, hport, hbaud, hstat]
  have htext : ∀ name o, (name, o) ∈ [("itype", r.itype), ("port", r.port), ("baud", r.baud), ("stat", r.stat)] →
      (if name ∈ written then some (textOrNull o) else none).bind Json.text? = o := by
    refine fun name o hname => text?_slot ?_
    rintro s rfl
    exact hpresent (name, .string s) (List.mem_append_right _ (List.mem_filterMap.mpr ⟨_, hname, rfl⟩))
  rw [hslots]
  refine ⟨rfl, ?_⟩
  simp only [ofSlots?, htext "itype" r.itype (by simp), htext "port" r.port (by simp), htext "baud" r.baud (by simp),
    htext "stat" r.stat (by simp), Option.bind_some, Json.text?, r.cmd.ofJson?_json]
  rfl

/-! ### Reading -/

/-- **A request is read however it is laid out**, with any white space before it, whatever follows it and
whether or not the stream is closed behind it: from an object that carries it, and from an array of its
first fields among which all that are present are. An object in which a field comes twice is malformed. -/
theorem read_however_laid_out (ending : Ending) (more : List UInt8) {w : List Char} (hw : Blank w) :
    (∀ (r : Request) (ms : List (String × List Char)) (text : List Char), r.CarriedBy ms → ObjectText ms text →
      (utf8 (w ++ text)).length ≤ messageLimit → read ending (utf8 (w ++ text) ++ more) = .ok (some r)) ∧
    (∀ (r : Request) (n : Nat) (vs : List (List Char)) (text : List Char), (∀ m ∈ r.members, m.1 ∈ names.take n) →
      List.Forall₂ (fun name v => Spells (r.value name) v) (names.take n) vs → ArrayText vs text →
      (utf8 (w ++ text)).length ≤ messageLimit → read ending (utf8 (w ++ text) ++ more) = .ok (some r)) ∧
    ∀ (ms : List (String × List Char)) (text : List Char), (∃ name ∈ names, 2 ≤ (ms.map (·.1)).count name) →
      (∀ m ∈ ms, WellFormed .value m.2) → ObjectText ms text → (utf8 (w ++ text)).length ≤ messageLimit →
      read ending (utf8 (w ++ text) ++ more) = .error .malformed := by
  refine ⟨fun r ms text hcarried htext hlength => ?_, fun r n vs text hpresent hvs htext hlength => ?_,
    fun ms text ⟨name, hname, htwice⟩ hformed htext hlength => ?_⟩
  · have honce : ∀ i f, fields[i]? = some f →
        Json.Record.occurrences (fields.map fun _ => none) i f.name ms ≤ 1 := fun i f hf => by
      rw [Json.Record.occurrences_start]
      exact hcarried.once _ (List.mem_map_of_mem (List.mem_of_getElem? hf))
    have hfits := Json.Record.fits_of_values distinct_fields r.accepts_value r.nested_value hcarried.values
      hcarried.others (List.length_map _) honce
    obtain ⟨hcomplete, hslots⟩ := ofSlots?_gathered hcarried.present
    have hdone := Json.Record.advance_of_run (Json.Record.run_object hw htext hfits hcomplete) []
    rw [List.append_nil] at hdone
    exact readMessage_of_done hdone hslots hlength ending more
  · have htake : names.take n = (fields.take n).map (·.name) := List.map_take.symm
    rw [htake] at hpresent
    rw [htake, List.forall₂_map_left_iff] at hvs
    have hfields : fields = [] ++ (fields.take n ++ fields.drop n) := (List.take_append_drop n fields).symm
    have hfits : Json.Record.FitsByPlace fields 0 (fields.map fun _ => none) vs _ :=
      Json.Record.fitsByPlace_of_values distinct_fields r.accepts_value r.nested_value hfields hvs (List.length_map _)
    obtain ⟨hcomplete, hslots⟩ := ofSlots?_gathered hpresent
    have hdone := Json.Record.advance_of_run (Json.Record.run_array hw htext hfits hcomplete) []
    rw [List.append_nil] at hdone
    exact readMessage_of_done hdone hslots hlength ending more
  · have hbad : Json.Record.advance fields (Json.Record.start fields) (utf8 (w ++ text)) = .bad := by
      rw [Json.Record.advance_eq_scan]
      exact Json.Record.scan_object_repeated hw htext hformed hname htwice
    exact readMessage_of_bad hbad hlength ending more

/-- A request in another order than its own, with a field that no request has, an absent field as null and
an escape in its port; an array that ends with the port; and a command that comes twice. -/
theorem read_laid_out_otherwise :
    let r : Request := ⟨"control", .number 2, none, some "COM7", none, none⟩
    read .holds (utf8 (' ' :: ("\x7b\"x\":[\x7b \x7d],\"port\" : \"COM\\u0037\",".toList ++
        "\"itype\":null,\"cmd\":2,\"ctype\":\"control\"\x7d".toList)) ++ utf8 ['x']) = .ok (some r) ∧
      read .holds (utf8 " [\"control\",2,null, \"COM7\"]".toList ++ utf8 ['x']) = .ok (some r) ∧
      read .holds (utf8 " \x7b\"cmd\":2,\"cmd\":null\x7d".toList ++ utf8 ['x']) = .error .malformed := by
  intro r
  have hspace : Blank [' '] := by decide
  have hread := read_however_laid_out .holds (utf8 ['x']) hspace
  have hself : ∀ s : String, s.toList.all (decide <| Json.Plain ·) = true →
      Spells (.string s) ('"' :: (s.toList ++ ['"'])) := fun s hs => .string (Json.spelled_self hs)
  have hctype : Spells (.string "control") "\"control\"".toList := hself "control" (by decide)
  have hport : Spells (.string "COM7") ('"' :: ("COM\\u0037".toList ++ ['"'])) := by
    refine .string (.plain (by decide) (.plain (by decide) (.plain (by decide) ?_)))
    have hdigits := @Json.FourHex.digits '0' '0' '3' '7' 0 0 3 7 (.inl rfl) (.inl rfl) (.inl rfl) (.inl rfl)
    exact .unit hdigits (by decide) .nil
  have hextra : WellFormed .value ('[' :: (([] ++ ('\x7b' :: ([' '] ++ ['\x7d']) ++ [])) ++ [']'])) :=
    .array (.item (by decide) (.noMembers hspace) (by decide))
  have hwhole : WellFormed .value ['2'] := .number (@Json.Numeric.positive ['2'] [] [] (.inr (by decide)) .none .none)
  -- Members without white space.
  have hone : ∀ (name : String) (v : List Char), name.toList.all (decide <| Json.Plain ·) = true →
      Json.Members [(name, v)] ([] ++ '"' :: (name.toList ++ '"' :: ([] ++ ':' :: ([] ++ (v ++ []))))) :=
    fun name v hname => .one (by decide) (Json.spelled_self hname) (by decide) (by decide) (by decide)
  have hmore : ∀ (name : String) (v rest : List Char) (ms : List (String × List Char)),
      name.toList.all (decide <| Json.Plain ·) = true → Json.Members ms rest → Json.Members ((name, v) :: ms)
        ([] ++ '"' :: (name.toList ++ '"' :: ([] ++ ':' :: ([] ++ (v ++ ([] ++ ',' :: rest)))))) :=
    fun name v rest ms hname hrest =>
      .more (by decide) (Json.spelled_self hname) (by decide) (by decide) (by decide) hrest
  have hobject : ObjectText [("x", "[\x7b \x7d]".toList), ("port", "\"COM\\u0037\"".toList), ("itype", "null".toList),
      ("cmd", ['2']), ("ctype", "\"control\"".toList)] ("\x7b\"x\":[\x7b \x7d],\"port\" : \"COM\\u0037\",".toList ++
        "\"itype\":null,\"cmd\":2,\"ctype\":\"control\"\x7d".toList) := by
    refine @ObjectText.members _ ("\"x\":[\x7b \x7d],\"port\" : \"COM\\u0037\",".toList ++
      "\"itype\":null,\"cmd\":2,\"ctype\":\"control\"".toList) (hmore "x" _ _ _ (by decide) ?_)
    refine @Json.Members.more _ "port".toList _ [] [' '] [' '] [] _ _ (by decide) (Json.spelled_self (by decide)) hspace
      hspace (by decide) ?_
    exact hmore "itype" _ _ _ (by decide) (hmore "cmd" _ _ _ (by decide) (hone "ctype" _ (by decide)))
  have harray : ArrayText ["\"control\"".toList, ['2'], "null".toList, "\"COM7\"".toList]
      "[\"control\",2,null, \"COM7\"]".toList := by
    refine @ArrayText.items _ "\"control\",2,null, \"COM7\"".toList ?_
    refine @Json.Items.more _ [] [] _ _ (by decide) (by decide) ?_
    refine @Json.Items.more _ [] [] _ _ (by decide) (by decide) ?_
    refine @Json.Items.more _ [] [] _ _ (by decide) (by decide) ?_
    exact @Json.Items.one _ [' '] [] hspace (by decide)
  have htwice : ObjectText [("cmd", ['2']), ("cmd", "null".toList)] "\x7b\"cmd\":2,\"cmd\":null\x7d".toList :=
    @ObjectText.members _ "\"cmd\":2,\"cmd\":null".toList (hmore "cmd" _ _ _ (by decide) (hone "cmd" _ (by decide)))
  refine ⟨hread.1 r _ _ ⟨by decide, ?_, ?_, by decide⟩ hobject (by decide),
    hread.2.1 r 4 _ _ (by decide) (.cons hctype (.cons (.whole 2) (.cons .null
      (.cons (hself "COM7" (by decide)) .nil)))) harray (by decide),
    hread.2.2 _ _ ⟨"cmd", by decide, by decide⟩ ?_ htwice (by decide)⟩
  · intro m hm hknown
    simp only [List.mem_cons, List.not_mem_nil, or_false] at hm
    rcases hm with rfl | rfl | rfl | rfl | rfl
    · exact absurd hknown (by decide)
    · exact hport
    · exact .null
    · exact .whole 2
    · exact hctype
  · intro m hm hother
    simp only [List.mem_cons, List.not_mem_nil, or_false] at hm
    rcases hm with rfl | rfl | rfl | rfl | rfl
    · exact hextra
    all_goals exact absurd (by decide) hother
  · intro m hm
    simp only [List.mem_cons, List.not_mem_nil, or_false] at hm
    rcases hm with rfl | rfl
    · exact hwhole
    · exact .null

end Request

end SwitchBench
