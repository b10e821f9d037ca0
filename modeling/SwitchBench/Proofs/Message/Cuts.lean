import SwitchBench.Proofs.Json.CutRecords
import SwitchBench.Proofs.Message.Wire

/-! Messages that are cut off.

A stream may end, or fall silent, at any byte of a message. The message counts from its
closing bracket on and not before, so a server carries out all of a request or nothing
of it. -/
namespace SwitchBench

open Json (isSpace)
open Json.Record (advance start finish Known)

/-- What is read as a message ends at one byte of the stream. -/
theorem end_of_readMessage {α : Type} {fields : List Json.Field}
    {ofSlots? : List (Option Json) → Option α} {ending : Ending} {bytes : List UInt8} {a : α}
    (h : readMessage fields ofSlots? ending bytes = .ok (some a)) :
    ∃ slots front b back, ofSlots? slots = some a ∧ bytes = front ++ b :: back ∧
      front.length < messageLimit ∧ (b = 0x7D ∨ b = 0x5D) ∧
      advance fields (start fields) (front ++ [b]) = .done slots ∧
      ∀ k, ∃ s rest, advance fields (start fields) (front.take k) = .more s ∧
        advance fields s rest = .done slots := by
  unfold readMessage at h
  dsimp only at h
  split at h
  · cases h
  · cases hrecord : Json.Record.read fields (bytes.take messageLimit) with
    | nothing | cut | malformed => rw [hrecord] at h; cases h
    | record slots =>
      rw [hrecord] at h
      dsimp only at h
      have hslots : ofSlots? slots = some a := by
        split at h
        next hsome => cases h; exact hsome
        · cases h
      obtain ⟨front, b, back, htake, hbracket, hdone, hcuts⟩ := Json.Record.end_of_read hrecord
      have hlength := congrArg List.length htake
      rw [List.length_take, List.length_append, List.length_cons] at hlength
      refine ⟨slots, front, b, back ++ bytes.drop messageLimit, hslots, ?_, by omega, hbracket, hdone, hcuts⟩
      rw [← List.cons_append, ← List.append_assoc, ← htake, List.take_append_drop]

/-- A stream that stops short of a record is waited for. -/
theorem readMessage_holds_of_more {α : Type} {fields : List Json.Field}
    (ofSlots? : List (Option Json) → Option α) {bytes : List UInt8} {s : Json.Record.State}
    (h : advance fields (start fields) bytes = .more s) (hlength : bytes.length < messageLimit) :
    readMessage fields ofSlots? .holds bytes = .error .stalled := by
  simp [readMessage, List.take_of_length_le (Nat.le_of_lt hlength), hlength, Json.Record.isSettled, h]

/-- A stream that ends short of a record is blank, cut off or malformed. -/
theorem readMessage_closes_of_more {α : Type} {fields : List Json.Field}
    (ofSlots? : List (Option Json) → Option α) {bytes : List UInt8} {s : Json.Record.State}
    (h : advance fields (start fields) bytes = .more s) (hlength : bytes.length < messageLimit) :
    (finish fields s = .nothing → readMessage fields ofSlots? .closes bytes = .ok none) ∧
    (finish fields s = .cut → readMessage fields ofSlots? .closes bytes = .error .truncated) ∧
    (finish fields s = .malformed → readMessage fields ofSlots? .closes bytes = .error .malformed) := by
  have hread : Json.Record.read fields (bytes.take messageLimit) = finish fields s := by
    rw [List.take_of_length_le (Nat.le_of_lt hlength), Json.Record.read, h]
  refine ⟨fun hs => ?_, fun hs => ?_, fun hs => ?_⟩ <;> simp [readMessage, hread, hs]

theorem CommandToken.isSome_ofJson?_whole_iff {n : Int} :
    (CommandToken.ofJson? (.number (.whole n))).isSome = true ↔
      -9223372036854775808 ≤ n ∧ n < 9223372036854775808 := by
  rw [CommandToken.ofJson?, Option.isSome_ite]

namespace Request

theorem steady_optionalText (name : String) : (optionalText name).Steady where
  scalar v h := by cases v <;> first | rfl | cases h
  number x h := by cases h

/-- Fields of requests take texts and whole numbers only. -/
theorem steady {f : Json.Field} (hf : f ∈ fields) : f.Steady := by
  simp only [fields, List.mem_cons, List.not_mem_nil, or_false] at hf
  rcases hf with rfl | rfl | rfl | rfl | rfl | rfl
  case inr.inl =>
    refine ⟨fun v h => ?_, fun x h => ?_⟩
    · cases v <;> first | rfl | cases h
    · cases x with
      | real y => cases h
      | whole i =>
        refine ⟨i, rfl, fun j hj => ?_⟩
        have hrange := CommandToken.isSome_ofJson?_whole_iff.mp h
        exact CommandToken.isSome_ofJson?_whole_iff.mpr (by omega)
  case inl =>
    refine ⟨fun v h => ?_, fun x h => by cases h⟩
    cases v <;> first | rfl | cases h
  all_goals exact steady_optionalText _

/-- A stream that ends inside a request holds part of a message, or it has a member that is
stepped over. -/
theorem read_closes_of_cut {front rest : List UInt8} {s : Json.Record.State} {slots : List (Option Json)}
    (hs : advance fields (start fields) front = .more s) (hrest : advance fields s rest = .done slots)
    (hlength : front.length < messageLimit) (hbegun : ∃ y ∈ front, isSpace y = false) :
    read .closes front = .error .truncated ∨
      read .closes front = .error .malformed ∧ ¬ Known fields (start fields) front := by
  have hblank : ¬ ∀ b ∈ front, isSpace b = true := by
    obtain ⟨y, hy, hyspace⟩ := hbegun
    intro hblank
    rw [hblank y hy] at hyspace
    cases hyspace
  obtain ⟨-, hcut, hmalformed⟩ := readMessage_closes_of_more ofSlots? hs hlength
  exact (Json.Record.finish_of_cut (fun f hf => steady hf) hs hrest hblank).imp hcut
    (And.imp_left hmalformed)

/-- **A stream is read as a request from one byte on.** -/
structure ReadFrom (b : List UInt8) (r : Request) (m : Nat) : Prop where
  within : m ≤ messageLimit
  there : m ≤ b.length
  /-- The last byte that is needed closes a bracket. -/
  bracket : b[m - 1]? = some 0x7D ∨ b[m - 1]? = some 0x5D
  /-- Cut off behind that byte, the stream is read as the request, -/
  cut (ending : Ending) (k : Nat) : m ≤ k → read ending (b.take k) = .ok (some r)
  /-- and so it is with any bytes behind it. -/
  extended (ending : Ending) (more : List UInt8) : read ending (b ++ more) = .ok (some r)
  /-- Before that byte more is waited for, -/
  stalled (k : Nat) : k < m → read .holds (b.take k) = .error .stalled
  /-- and a stream that is closed holds nothing if it is blank, -/
  nothing (k : Nat) : k < m → (∀ x ∈ b.take k, isSpace x = true) → read .closes (b.take k) = .ok none
  /-- and else no message, -/
  refused (k : Nat) : k < m → (∃ x ∈ b.take k, isSpace x = false) →
    read .closes (b.take k) = .error .truncated ∨ read .closes (b.take k) = .error .malformed
  /-- but part of one, unless members are stepped over. -/
  truncated (k : Nat) : k < m → (∃ x ∈ b.take k, isSpace x = false) → Known fields (start fields) b →
    read .closes (b.take k) = .error .truncated

/-- **All of a request is read or nothing of it**, wherever the stream is cut off. -/
theorem exists_readFrom {ending : Ending} {b : List UInt8} {r : Request}
    (h : read ending b = .ok (some r)) : ∃ m, ReadFrom b r m := by
  obtain ⟨slots, front, x, back, hslots, rfl, hlength, hbracket, hdone, hcuts⟩ := end_of_readMessage h
  have hread : ∀ e more, read e ((front ++ [x]) ++ more) = .ok (some r) := fun e more =>
    readMessage_of_done hdone hslots (by simpa [Nat.succ_le_iff] using hlength) e more
  have htake : ∀ {k}, k < front.length + 1 → (front ++ x :: back).take k = front.take k := fun hk =>
    List.take_append_of_le_length (Nat.le_of_lt_succ hk)
  have hshort : ∀ k, (front.take k).length < messageLimit := fun k =>
    Nat.lt_of_le_of_lt (List.length_take_le' ..) hlength
  have hclosed : ∀ k, (∃ y ∈ front.take k, isSpace y = false) →
      read .closes (front.take k) = .error .truncated ∨
        read .closes (front.take k) = .error .malformed ∧ ¬ Known fields (start fields) (front.take k) := by
    intro k hbegun
    obtain ⟨s, rest, hs, hrest⟩ := hcuts k
    exact read_closes_of_cut hs hrest (hshort k) hbegun
  refine ⟨front.length + 1, hlength, by simp, by simpa using hbracket, ?_, ?_, ?_, ?_, ?_, ?_⟩
  · intro e k hk
    obtain ⟨n, rfl⟩ := Nat.le.dest hk
    have hcut : (front ++ x :: back).take (front.length + 1 + n) = (front ++ [x]) ++ back.take n := by
      rw [Nat.add_assoc, List.take_length_add_append, Nat.add_comm 1 n]
      simp
    rw [hcut]
    exact hread e _
  · intro e more
    rw [show front ++ x :: back ++ more = (front ++ [x]) ++ (back ++ more) by simp]
    exact hread e _
  · intro k hk
    obtain ⟨s, rest, hs, -⟩ := hcuts k
    rw [htake hk]
    exact readMessage_holds_of_more ofSlots? hs (hshort k)
  · intro k hk hblank
    rw [htake hk] at hblank ⊢
    exact (readMessage_closes_of_more ofSlots? (Json.Record.advance_blank _ hblank) (hshort k)).1 rfl
  · intro k hk hbegun
    rw [htake hk] at hbegun ⊢
    exact (hclosed k hbegun).imp id And.left
  · intro k hk hbegun hknown
    have hfront : Known fields (start fields) (front.take k) := by
      rw [← htake hk]
      rw [← List.take_append_drop k (front ++ x :: back)] at hknown
      exact hknown.front
    rw [htake hk] at hbegun ⊢
    exact (hclosed k hbegun).resolve_right fun hmalformed => hmalformed.2 hfront

/-- A request with a member that is stepped over, and with bytes behind it. -/
theorem exists_readFrom_steppedOver :
    let b := utf8 "\x7b\"x\":-1,\"ctype\":\"a\\u00e9\",\"cmd\":12\x7d]".toList
    let r : Request := ⟨"aé", .number 12, none, none, none, none⟩
    read .closes b = .ok (some r) ∧ ∃ m, ReadFrom b r m := by
  intro b r
  have h : read .closes b = .ok (some r) := by rfl
  exact ⟨h, exists_readFrom h⟩

/-- A minus sign that is stepped over cannot be the end of a number. -/
example : read .closes (utf8 "\x7b\"x\":-".toList) = .error .malformed := by rfl

end Request

end SwitchBench
