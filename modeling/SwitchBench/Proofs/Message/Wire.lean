import SwitchBench.Proofs.Json.Records

/-! Messages on the wire.

A message that is sent is received as it was, whatever follows it on the stream and
whether or not the other side closes the stream, as long as it does not exceed what is
read for one message. -/
namespace SwitchBench

open Json (Nested)
open Json.Record (Fills)

/-- What is settled within the limit is settled whatever follows. -/
theorem advance_take {fields : List Json.Field} {front : List UInt8}
    {r : Json.Fed Json.Record.State (List (Option Json))}
    (h : Json.Record.advance fields (Json.Record.start fields) front = r) (hr : ∀ s, r ≠ .more s)
    (hlength : front.length ≤ messageLimit) (more : List UInt8) :
    Json.Record.advance fields (Json.Record.start fields) ((front ++ more).take messageLimit) = r := by
  rw [List.take_append, List.take_of_length_le hlength, Json.Record.advance_append, h]
  cases r with
  | more s => exact absurd rfl (hr s)
  | done _ | past _ | bad => rfl

/-- Once a record has ended within the limit, it is the message that is read. -/
theorem readMessage_of_done {α : Type} {fields : List Json.Field}
    {ofSlots? : List (Option Json) → Option α} {front : List UInt8} {slots : List (Option Json)} {a : α}
    (h : Json.Record.advance fields (Json.Record.start fields) front = .done slots)
    (hslots : ofSlots? slots = some a) (hlength : front.length ≤ messageLimit) (ending : Ending)
    (more : List UInt8) : readMessage fields ofSlots? ending (front ++ more) = .ok (some a) := by
  have hdone := advance_take h (fun _ => nofun) hlength more
  simp [readMessage, Json.Record.isSettled, Json.Record.read, hdone, hslots]

/-- **The first record of a stream is the message that is read.** -/
theorem readMessage_of_fills {α : Type} {fields : List Json.Field}
    {ofSlots? : List (Option Json) → Option α} {ms : List (String × Json)}
    {filled : List (Option Json)} {a : α} (h : Fills fields (fields.map fun _ => none) ms filled)
    (hne : ms ≠ []) (hcomplete : Json.Record.isComplete fields filled = true)
    (hslots : ofSlots? filled = some a) (hlength : (utf8 (Json.object ms).write).length ≤ messageLimit)
    (ending : Ending) (more : List UInt8) :
    readMessage fields ofSlots? ending (utf8 (Json.object ms).write ++ more) = .ok (some a) := by
  have hdone := Json.Record.advance_of_fills h hne hcomplete []
  rw [List.append_nil] at hdone
  exact readMessage_of_done hdone hslots hlength ending more

/-- **A message that is cut off is not taken for another one.** -/
theorem eq_of_readMessage_prefix {α : Type} {fields : List Json.Field}
    {ofSlots? : List (Option Json) → Option α} {ms : List (String × Json)}
    {filled : List (Option Json)} {a m : α} (h : Fills fields (fields.map fun _ => none) ms filled)
    (hne : ms ≠ []) (hcomplete : Json.Record.isComplete fields filled = true)
    (hslots : ofSlots? filled = some a) {front : List UInt8}
    (hfront : front <+: utf8 (Json.object ms).write) {ending : Ending}
    (hread : readMessage fields ofSlots? ending front = .ok (some m)) : m = a := by
  unfold readMessage at hread
  dsimp only at hread
  split at hread
  · cases hread
  · cases hrecord : Json.Record.read fields (front.take messageLimit) with
    | record slots =>
      have htaken := (List.take_prefix messageLimit front).trans hfront
      rw [hrecord, Json.Record.eq_of_read_prefix h hne hcomplete htaken hrecord] at hread
      simp only [hslots] at hread
      exact (Option.some.inj (Except.ok.inj hread)).symm
    | nothing | cut | malformed => rw [hrecord] at hread; cases hread

/-! ### Requests -/

theorem CommandToken.ofJson?_json (t : CommandToken) : CommandToken.ofJson? t.json = some t := by
  cases t with
  | name text => rfl
  | number n =>
    have hlow : -9223372036854775808 ≤ n.toInt := n.le_toInt
    have hhigh : n.toInt < 9223372036854775808 := n.toInt_lt
    simp [json, ofJson?, hlow, hhigh]

theorem CommandToken.json_nested (t : CommandToken) : Nested Json.Record.room t.json := by
  cases t with
  | name text => exact .string text
  | number n => exact .whole n.le_toInt (Int.lt_trans n.toInt_lt (by decide))

namespace Request

/-- An optional text fills its slot if it is there. -/
theorem fills_optional {slots filled : List (Option Json)} {ms : List (String × Json)} {i : Nat}
    {name : String} (found : fields.findIdx? (fun f => f.name == name) = some i)
    (field : fields[i]? = some (optionalText name)) (free : slots[i]? = some none) (o : Option String)
    (rest : Fills fields (slots.set i (o.map Json.string)) ms filled) :
    Fills fields slots ((o.map fun s => (name, Json.string s)).toList ++ ms) filled := by
  cases o with
  | none =>
    have hset : slots.set i none = slots := by
      obtain ⟨hi, hget⟩ := List.getElem?_eq_some_iff.mp free
      rw [← hget]
      exact List.set_getElem_self hi
    rwa [Option.map_none, hset] at rest
  | some s => exact .cons found field (by rw [free]; rfl) rfl (fun _ => rfl) (.string s) rest

theorem members_eq (r : Request) : r.members = ("ctype", .string r.ctype) :: ("cmd", r.cmd.json) ::
    ((r.itype.map fun s => ("itype", Json.string s)).toList ++
      ((r.port.map fun s => ("port", Json.string s)).toList ++
        ((r.baud.map fun s => ("baud", Json.string s)).toList ++
          ((r.stat.map fun s => ("stat", Json.string s)).toList ++ [])))) := by
  cases r with
  | mk ctype cmd itype port baud stat => cases itype <;> cases port <;> cases baud <;> cases stat <;> rfl

theorem fills (r : Request) : Fills fields (fields.map fun _ => none) r.members
    [some (.string r.ctype), some r.cmd.json, r.itype.map .string, r.port.map .string,
      r.baud.map .string, r.stat.map .string] := by
  have hcmd : (CommandToken.ofJson? r.cmd.json).isSome = true := by
    rw [r.cmd.ofJson?_json]
    rfl
  rw [members_eq]
  refine .cons (i := 0) rfl rfl rfl rfl (fun _ => rfl) (.string _) ?_
  refine .cons (i := 1) rfl rfl rfl hcmd (fun h => absurd h (by decide)) r.cmd.json_nested ?_
  refine fills_optional (i := 2) rfl rfl rfl r.itype ?_
  refine fills_optional (i := 3) rfl rfl rfl r.port ?_
  refine fills_optional (i := 4) rfl rfl rfl r.baud ?_
  refine fills_optional (i := 5) rfl rfl rfl r.stat ?_
  exact .nil

theorem ofSlots?_filled (r : Request) : ofSlots? [some (.string r.ctype), some r.cmd.json,
    r.itype.map .string, r.port.map .string, r.baud.map .string, r.stat.map .string] = some r := by
  have htext : ∀ o : Option String, (o.map Json.string).bind Json.text? = o := by
    intro o
    cases o <;> rfl
  simp [ofSlots?, htext, r.cmd.ofJson?_json, Json.text?]

theorem members_ne_nil (r : Request) : r.members ≠ [] := by
  rw [members_eq]
  simp

/-- **A request is received as it was sent.** -/
theorem read_bytes_append (r : Request) (h : r.bytes.length ≤ messageLimit) (ending : Ending)
    (more : List UInt8) : read ending (r.bytes ++ more) = .ok (some r) :=
  readMessage_of_fills r.fills r.members_ne_nil rfl r.ofSlots?_filled h ending more

/-- **What is received of a request** is the request itself, if it is one. -/
theorem eq_of_read_prefix {r m : Request} {front : List UInt8} (hfront : front <+: r.bytes)
    {ending : Ending} (hread : read ending front = .ok (some m)) : m = r :=
  eq_of_readMessage_prefix r.fills r.members_ne_nil rfl r.ofSlots?_filled hfront hread

/-- Different requests are carried by different bytes. -/
theorem bytes_injective {r s : Request} (h : r.bytes = s.bytes) : r = s := by
  have hr := Json.Record.read_of_fills r.fills r.members_ne_nil rfl []
  have hs := Json.Record.read_of_fills s.fills s.members_ne_nil rfl []
  rw [show utf8 (Json.object r.members).write = utf8 (Json.object s.members).write from h, hs] at hr
  have hslots := congrArg ofSlots? (Json.Record.Outcome.record.inj hr)
  rw [ofSlots?_filled, ofSlots?_filled] at hslots
  exact (Option.some.inj hslots).symm

end Request

/-! ### Responses -/

namespace Response

/-- **A response is received as it was sent**, if its data are not nested too deeply. -/
theorem read_bytes_append (r : Response) (hdata : Nested Json.Record.room r.data)
    (h : r.bytes.length ≤ messageLimit) (ending : Ending) (more : List UInt8) :
    read ending (r.bytes ++ more) = .ok (some r) := by
  have hfills : Fills fields (fields.map fun _ => none) [("data", r.data)] [some r.data] :=
    .cons (i := 0) rfl rfl rfl rfl (fun h => absurd h (by decide)) hdata .nil
  have hslots : ofSlots? [some r.data] = some r := rfl
  exact readMessage_of_fills hfills (by simp) rfl hslots h ending more

end Response

/-- A fault is reported and understood. -/
theorem Fault.ofJson?_json (f : Fault) : Fault.ofJson? f.json = some f := by
  simp [Fault.ofJson?, Fault.json, Json.member?, FaultKind.ofJson?, FaultKind.ofCode_code, Json.text?]

theorem Fault.json_nested (f : Fault) : Nested Json.Record.room f.json := by
  have hordered : "error" < "message" := by
    show "error".toList < "message".toList
    decide
  refine .object (List.pairwise_pair.mpr hordered) ?_
  intro m hm
  simp at hm
  rcases hm with rfl | rfl <;> exact .string _

/-! ### Both kinds -/

/-- **What is sent is received**, whatever follows it and whether or not the stream is closed
behind it: every request, and every response whose data, counted with the response itself,
have at most 127 levels of whole numbers of 64 bits, texts and the like. -/
theorem received_as_sent (ending : Ending) (more : List UInt8) :
    (∀ r : Request, r.bytes.length ≤ messageLimit →
      Request.read ending (r.bytes ++ more) = .ok (some r)) ∧
    ∀ r : Response, Nested 127 (.object [("data", r.data)]) → r.bytes.length ≤ messageLimit →
      Response.read ending (r.bytes ++ more) = .ok (some r) := by
  refine ⟨fun r hlength => r.read_bytes_append hlength ending more, fun r hnested hlength => ?_⟩
  cases hnested with
  | object _ hdata =>
    have hroom : Nested Json.Record.room r.data := hdata ("data", r.data) (List.mem_singleton.mpr rfl)
    exact r.read_bytes_append hroom hlength ending more

/-- Names in digits stay names, and escapes, surrogates and the ends of the range come back. -/
theorem received_as_sent_digits :
    let r : Request := ⟨"control", .name "2", none, some "\"COM\\7\"\n\u0001😀", none, some "é"⟩
    let s : Response := ⟨.array [.object [("a", .null), ("b", .array [.bool true])],
      .number (.whole (-9223372036854775808)), .number (.whole 18446744073709551615), .string "\t"]⟩
    Request.read .holds (r.bytes ++ utf8 ['x']) = .ok (some r) ∧
      Response.read .closes (s.bytes ++ utf8 [',']) = .ok (some s) := by
  intro r s
  have hordered : "a" < "b" := by
    show "a".toList < "b".toList
    decide
  have hnested : Nested 127 (.object [("data", s.data)]) := by
    refine .object (List.pairwise_singleton ..) fun m hm => ?_
    rw [List.mem_singleton.mp hm]
    refine .array fun v hv => ?_
    simp only [List.mem_cons, List.not_mem_nil, or_false] at hv
    rcases hv with rfl | rfl | rfl | rfl
    · refine .object (List.pairwise_pair.mpr hordered) fun m hm => ?_
      simp only [List.mem_cons, List.not_mem_nil, or_false] at hm
      rcases hm with rfl | rfl
      · exact .null
      · exact .array fun v hv => by rw [List.mem_singleton.mp hv]; exact .bool true
    · exact .whole (by decide) (by decide)
    · exact .whole (by decide) (by decide)
    · exact .string _
  exact ⟨(received_as_sent .holds _).1 r (by decide), (received_as_sent .closes _).2 s hnested (by decide)⟩

end SwitchBench
