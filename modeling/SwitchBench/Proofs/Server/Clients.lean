import Mathlib.Algebra.Ring.Nat
import SwitchBench.Proofs.Server.Handling

/-! Clients of different switches.

A server handles the requests of a client one after another, and those of other clients in
between: whenever a look has been taken at the handles or the switches, any client may be next
(`Client.turn`, `Clients.turns`). Clients that name different switches do not notice each
other. Whatever the order, each receives what it would receive, and the bench becomes what it
would become, if the requests of the one were all handled before those of the other
(`Clients.turns_apart`). -/
namespace SwitchBench

/-! ### One client -/

namespace Request

/-- The switch is named by one of the requests. -/
def Named (rs : List Request) (id : SwitchId) : Prop := ∃ r ∈ rs, r.switch? = some id

/-- Requests that name their switches are about the switches that they name. -/
theorem isAbout_named {rs : List Request} (h : ∀ r ∈ rs, r.switch? ≠ none ∧ ¬ r.IsSearch) :
    ∀ r ∈ rs, r.IsAbout (Named rs) := fun r hr => by
  obtain ⟨hnames, hsearch⟩ := h r hr
  obtain ⟨id, hid⟩ := Option.ne_none_iff_exists'.mp hnames
  exact ⟨⟨id, hid, r, hr, hid⟩, hsearch⟩

end Request

namespace Bench

/-- The responses to requests that are handled one after another, with nothing in between. -/
def answerAll (limit : Nat) (b : Bench) : List Request → List Response × Bench
  | [] => ([], b)
  | r :: rest =>
    let (response, b) := b.answer limit r
    let (responses, b) := answerAll limit b rest
    (response :: responses, b)

theorem Within.answerAll {S : SwitchId → Prop} (limit : Nat) {rs : List Request}
    (h : ∀ r ∈ rs, r.IsAbout S) : Within S fun b => b.answerAll limit rs := by
  induction rs with
  | nil => exact .pure []
  | cons r rest ih =>
    obtain ⟨hr, hrest⟩ := List.forall_mem_cons.mp h
    exact (hr.within_answer limit).bind _ fun response => (ih hrest).map (response :: ·)

end Bench

/-- The requests of a client in their order, each with how far it is. -/
abbrev Client := List Stage

namespace Client

/-- Nothing is handled yet. -/
def new (rs : List Request) : Client := rs.map .asked

/-- One turn of the first request that is not yet answered. -/
def turn (limit : Nat) (x : Client) (b : Bench) : Client × Bench :=
  match x with
  | [] => ([], b)
  | stage :: rest =>
    match stage.response? with
    | some _ => (stage :: (turn limit rest b).1, (turn limit rest b).2)
    | none => ((stage.turn limit b).1 :: rest, (stage.turn limit b).2)

/-- The responses that the client has received. -/
def received (x : Client) : List Response := x.filterMap Stage.response?

/-- Every request is answered. -/
def IsDone (x : Client) : Prop := ∀ stage ∈ x, stage.response?.isSome = true

/-- What the responses will be, and the bench then, if no other client has a turn any more. -/
def outcome (limit : Nat) (x : Client) (b : Bench) : List Response × Bench :=
  match x with
  | [] => ([], b)
  | stage :: rest =>
    let (response, b) := stage.outcome limit b
    let (responses, b) := outcome limit rest b
    (response :: responses, b)

/-- How many turns are left at most. -/
def turnsLeft (x : Client) : Nat := (x.map Stage.turnsLeft).sum

/-- All requests are about some switches. -/
def IsAbout (S : SwitchId → Prop) (x : Client) : Prop := ∀ stage ∈ x, stage.IsAbout S

section
variable (limit : Nat) (x : Client) (b : Bench)

theorem outcome_new (rs : List Request) : (new rs).outcome limit b = b.answerAll limit rs := by
  induction rs generalizing b with
  | nil => rfl
  | cons r rest ih =>
    simp only [new, List.map_cons, outcome, Stage.outcome, Bench.answerAll]
    rw [← ih]
    rfl

theorem turnsLeft_new (rs : List Request) : (new rs).turnsLeft = 3 * rs.length := by
  simp [new, turnsLeft, Stage.turnsLeft, Function.comp_def, List.map_const', Nat.mul_comm]

/-- **A turn does not change what the responses will be.** -/
theorem turn_outcome : (x.turn limit b).1.outcome limit (x.turn limit b).2 = x.outcome limit b := by
  induction x generalizing b with
  | nil => rfl
  | cons stage rest ih =>
    unfold turn
    cases hstage : stage.response? with
    | some response =>
      simp only [outcome, Stage.outcome_of_response? limit hstage, ih]
    | none =>
      dsimp only [outcome]
      rw [stage.turn_outcome limit b]

theorem turnsLeft_turn : (x.turn limit b).1.turnsLeft ≤ x.turnsLeft - 1 := by
  induction x generalizing b with
  | nil => exact Nat.le_refl _
  | cons stage rest ih =>
    unfold turn
    cases hstage : stage.response? with
    | some response =>
      have hleft := ih b
      have hzero : stage.turnsLeft = 0 := stage.turnsLeft_eq_zero_iff.mpr (by simp [hstage])
      simp only [turnsLeft, List.map_cons, List.sum_cons, hzero] at hleft ⊢
      omega
    | none =>
      have hleft := stage.turnsLeft_turn limit b
      have hpos : stage.turnsLeft ≠ 0 := fun hzero => by
        have hanswered := stage.turnsLeft_eq_zero_iff.mp hzero
        simp [hstage] at hanswered
      simp only [turnsLeft, List.map_cons, List.sum_cons]
      omega

theorem isDone_of_turnsLeft {x : Client} (h : x.turnsLeft = 0) : x.IsDone := by
  intro stage hstage
  refine stage.turnsLeft_eq_zero_iff.mp ?_
  exact List.sum_eq_zero_iff_forall_eq_nat.mp h _ (List.mem_map_of_mem hstage)

/-- Once every request is answered the responses are those received, and nothing is left to do. -/
theorem outcome_of_isDone {x : Client} (h : x.IsDone) : x.outcome limit b = (x.received, b) := by
  induction x with
  | nil => rfl
  | cons stage rest ih =>
    obtain ⟨hstage, hrest⟩ := List.forall_mem_cons.mp h
    obtain ⟨response, hresponse⟩ := Option.isSome_iff_exists.mp hstage
    dsimp only [outcome]
    rw [Stage.outcome_of_response? limit hresponse, ih hrest, received, received,
      List.filterMap_cons_some hresponse]

end

section
variable {S : SwitchId → Prop} (limit : Nat) {x : Client}

/-- **A turn is a matter of the switches that the requests are about**, -/
theorem within_turn (h : x.IsAbout S) : Bench.Within S (x.turn limit) := by
  induction x with
  | nil => exact .pure []
  | cons stage rest ih =>
    obtain ⟨hstage, hrest⟩ := List.forall_mem_cons.mp h
    cases hresponse : stage.response? with
    | some response =>
      exact ((ih hrest).map (stage :: ·)).congr fun b => by simp only [turn, hresponse]
    | none =>
      exact ((Stage.within_turn limit hstage).map (· :: rest)).congr fun b => by
        simp only [turn, hresponse]

/-- and leaves them about these switches. -/
theorem isAbout_turn (h : x.IsAbout S) (b : Bench) : (x.turn limit b).1.IsAbout S := by
  induction x generalizing b with
  | nil => exact h
  | cons stage rest ih =>
    obtain ⟨hstage, hrest⟩ := List.forall_mem_cons.mp h
    unfold turn
    split
    · exact List.forall_mem_cons.mpr ⟨hstage, ih hrest b⟩
    · exact List.forall_mem_cons.mpr ⟨Stage.isAbout_turn limit hstage b, hrest⟩

/-- So is what the responses will be. -/
theorem within_outcome (h : x.IsAbout S) : Bench.Within S (x.outcome limit) := by
  induction x with
  | nil => exact .pure []
  | cons stage rest ih =>
    obtain ⟨hstage, hrest⟩ := List.forall_mem_cons.mp h
    exact (Stage.within_outcome limit hstage).bind _ fun response => (ih hrest).map (response :: ·)

end

/-- A client about some switches is going to receive what is expected, and they are going to
become what is expected. -/
structure Expects (limit : Nat) (S : SwitchId → Prop) (expected : List Response × Bench) (x : Client)
    (b : Bench) : Prop where
  isAbout : x.IsAbout S
  responses : (x.outcome limit b).1 = expected.1
  bench : (x.outcome limit b).2.Alike S expected.2

namespace Expects
variable {limit : Nat} {S T : SwitchId → Prop} {expected : List Response × Bench} {x y : Client} {b : Bench}

/-- A turn of the client itself does not change that, -/
theorem turn (h : x.Expects limit S expected b) :
    (x.turn limit b).1.Expects limit S expected (x.turn limit b).2 where
  isAbout := isAbout_turn limit h.isAbout b
  responses := by rw [turn_outcome]; exact h.responses
  bench := by rw [turn_outcome]; exact h.bench

/-- nor does a turn of another client that is about other switches. -/
theorem turn_other (h : x.Expects limit S expected b) (hy : y.IsAbout T) (hapart : ∀ id, S id → ¬ T id) :
    x.Expects limit S expected (y.turn limit b).2 := by
  have hspared : (y.turn limit b).2.Alike S b := ((within_turn limit hy).spares b).mono hapart
  obtain ⟨hresponses, hbench⟩ := (within_outcome limit h.isAbout).same hspared
  exact ⟨h.isAbout, hresponses.trans h.responses, hbench.trans h.bench⟩

/-- Once every request is answered, it has come true. -/
theorem of_isDone (h : x.Expects limit S expected b) (hdone : x.IsDone) :
    x.received = expected.1 ∧ b.Alike S expected.2 := by
  have hresponses := h.responses
  have hbench := h.bench
  rw [outcome_of_isDone limit b hdone] at hresponses hbench
  exact ⟨hresponses, hbench⟩

end Expects

end Client

/-! ### Two clients -/

/-- Whose turn it is. -/
inductive Side where
  | first | second
deriving DecidableEq

/-- Two clients of a server. -/
structure Clients where
  first : Client
  second : Client
  bench : Bench

namespace Clients

/-- Nothing is handled yet. -/
def new (b : Bench) (rs ss : List Request) : Clients := ⟨.new rs, .new ss, b⟩

/-- One client has a turn. -/
def turn (limit : Nat) (x : Clients) : Side → Clients
  | .first =>
    let (first, bench) := x.first.turn limit x.bench
    { x with first, bench }
  | .second =>
    let (second, bench) := x.second.turn limit x.bench
    { x with second, bench }

/-- The clients have turns in some order. -/
def turns (limit : Nat) (x : Clients) (sides : List Side) : Clients := sides.foldl (turn limit) x

/-- What every turn preserves: what the clients are going to receive, and what their switches
and all others are going to become. -/
structure Apart (limit : Nat) (S T : SwitchId → Prop) (b : Bench) (one two : List Response × Bench)
    (x : Clients) : Prop where
  first : x.first.Expects limit S one x.bench
  second : x.second.Expects limit T two x.bench
  others : x.bench.Alike (fun id => ¬ S id ∧ ¬ T id) b

section
variable {limit : Nat} {S T : SwitchId → Prop} {b : Bench} {one two : List Response × Bench} {x : Clients}

/-- **One turn.** -/
theorem Apart.turn (h : x.Apart limit S T b one two) (hapart : ∀ id, S id → ¬ T id) (side : Side) :
    (x.turn limit side).Apart limit S T b one two := by
  cases side with
  | first =>
    refine ⟨h.first.turn, h.second.turn_other h.first.isAbout fun id hT hS => hapart id hS hT, ?_⟩
    exact (((Client.within_turn limit h.first.isAbout).spares x.bench).mono fun _ hid => hid.1).trans h.others
  | second =>
    refine ⟨h.first.turn_other h.second.isAbout hapart, h.second.turn, ?_⟩
    exact (((Client.within_turn limit h.second.isAbout).spares x.bench).mono fun _ hid => hid.2).trans h.others

/-- **Any number of turns.** -/
theorem Apart.turns (h : x.Apart limit S T b one two) (hapart : ∀ id, S id → ¬ T id) (sides : List Side) :
    (x.turns limit sides).Apart limit S T b one two := by
  induction sides generalizing x with
  | nil => exact h
  | cons side rest ih => exact ih (h.turn hapart side)

/-- When all is answered, the bench is as expected on the switches of either client and on all
others, if what the one does spares all but its own and then what the other does all but its own. -/
theorem Apart.bench_eq (h : x.Apart limit S T b one two) (hapart : ∀ id, S id → ¬ T id)
    (hone : one.2.Alike (fun id => ¬ S id) b) (htwo : two.2.Alike (fun id => ¬ T id) one.2)
    (hfirst : x.first.IsDone) (hsecond : x.second.IsDone) : x.bench = two.2 := by
  have hS : x.bench.Alike S two.2 := (h.first.of_isDone hfirst).2.trans (htwo.mono hapart).symm
  have hT : x.bench.Alike T two.2 := (h.second.of_isDone hsecond).2
  have hothers : x.bench.Alike (fun id => ¬ S id ∧ ¬ T id) two.2 :=
    (h.others.trans (hone.mono fun _ hid => hid.1).symm).trans (htwo.mono fun _ hid => hid.2).symm
  exact ((hS.union hT).union hothers).eq fun id => by
    by_cases hidS : S id <;> by_cases hidT : T id <;> simp [hidS, hidT]

end

/-- To begin with, what is expected is what comes of handling the requests of the one client
before those of the other. -/
theorem apart_new (limit : Nat) (b : Bench) {S T : SwitchId → Prop} {rs ss : List Request}
    (hrs : ∀ r ∈ rs, r.IsAbout S) (hss : ∀ r ∈ ss, r.IsAbout T) (hapart : ∀ id, S id → ¬ T id) :
    (new b rs ss).Apart limit S T b (b.answerAll limit rs) ((b.answerAll limit rs).2.answerAll limit ss) := by
  have hfirst : (Client.new rs).IsAbout S := List.forall_mem_map.mpr hrs
  have hsecond : (Client.new ss).IsAbout T := List.forall_mem_map.mpr hss
  have hbetween : b.Alike T (b.answerAll limit rs).2 :=
    (((Bench.Within.answerAll limit hrs).spares b).mono fun id hT hS => hapart id hS hT).symm
  obtain ⟨hresponses, hbench⟩ := (Bench.Within.answerAll limit hss).same hbetween
  refine ⟨⟨hfirst, ?_, ?_⟩, ⟨hsecond, ?_, ?_⟩, .refl b⟩
  · exact congrArg Prod.fst (Client.outcome_new limit b rs)
  · exact congrArg Prod.snd (Client.outcome_new limit b rs) ▸ .refl _
  · exact (congrArg Prod.fst (Client.outcome_new limit b ss)).trans hresponses
  · exact congrArg Prod.snd (Client.outcome_new limit b ss) ▸ hbench

/-- Every turn of a client takes it further. -/
theorem turnsLeft_turns (limit : Nat) (x : Clients) (sides : List Side) :
    (x.turns limit sides).first.turnsLeft ≤ x.first.turnsLeft - sides.count .first ∧
      (x.turns limit sides).second.turnsLeft ≤ x.second.turnsLeft - sides.count .second := by
  induction sides generalizing x with
  | nil => exact ⟨Nat.le_refl _, Nat.le_refl _⟩
  | cons side rest ih =>
    obtain ⟨hfirst, hsecond⟩ := ih (x.turn limit side)
    have hturn : (x.turn limit side).turns limit rest = x.turns limit (side :: rest) := rfl
    rw [hturn] at hfirst hsecond
    cases side with
    | first =>
      have hleft := x.first.turnsLeft_turn limit x.bench
      simp only [turn] at hfirst hsecond
      simp only [List.count_cons, beq_self_eq_true, if_true, reduceCtorEq, beq_iff_eq, if_false]
      omega
    | second =>
      have hleft := x.second.turnsLeft_turn limit x.bench
      simp only [turn] at hfirst hsecond
      simp only [List.count_cons, beq_self_eq_true, if_true, reduceCtorEq, beq_iff_eq, if_false]
      omega

/-- **Clients of different switches do not disturb each other.** Two clients send requests that
name their switches, no switch being named by both. In whatever order they have their turns,
three turns of its own for each of its requests are enough for a client to be answered; each
then has received what it receives, and in the end the bench is what it becomes, if the
requests of the first are all handled before those of the second. -/
theorem turns_apart (limit : Nat) (b : Bench) {rs ss : List Request}
    (hrs : ∀ r ∈ rs, r.switch? ≠ none ∧ ¬ r.IsSearch) (hss : ∀ s ∈ ss, s.switch? ≠ none ∧ ¬ s.IsSearch)
    (hapart : ∀ r ∈ rs, ∀ s ∈ ss, r.switch? ≠ s.switch?) (sides : List Side) :
    let x := (new b rs ss).turns limit sides
    let one := b.answerAll limit rs
    let two := one.2.answerAll limit ss
    (3 * rs.length ≤ sides.count .first → x.first.IsDone) ∧
      (3 * ss.length ≤ sides.count .second → x.second.IsDone) ∧
      (x.first.IsDone → x.first.received = one.1) ∧
      (x.second.IsDone → x.second.received = two.1) ∧
      (x.first.IsDone → x.second.IsDone → x.bench = two.2) := by
  intro x one two
  have hS := Request.isAbout_named hrs
  have hT := Request.isAbout_named hss
  have hST : ∀ id, Request.Named rs id → ¬ Request.Named ss id := by
    rintro id ⟨r, hr, hid⟩ ⟨s, hs, hid'⟩
    exact hapart r hr s hs (hid.trans hid'.symm)
  have h : x.Apart limit (Request.Named rs) (Request.Named ss) b one two :=
    (apart_new limit b hS hT hST).turns hST sides
  have hfirst : x.first.turnsLeft ≤ 3 * rs.length - sides.count .first :=
    Client.turnsLeft_new rs ▸ (turnsLeft_turns limit (new b rs ss) sides).1
  have hsecond : x.second.turnsLeft ≤ 3 * ss.length - sides.count .second :=
    Client.turnsLeft_new ss ▸ (turnsLeft_turns limit (new b rs ss) sides).2
  refine ⟨fun hcount => Client.isDone_of_turnsLeft ?_, fun hcount => Client.isDone_of_turnsLeft ?_,
    fun hdone => (h.first.of_isDone hdone).1, fun hdone => (h.second.of_isDone hdone).1,
    h.bench_eq hST ((Bench.Within.answerAll limit hS).spares b) ((Bench.Within.answerAll limit hT).spares one.2)⟩
  · omega
  · omega

/-- The requests to open a switch and to connect a port of it. -/
def openAndSwitch (id port : String) : List Request :=
  [(Request.device .open').naming id, ((Request.control .serial .switch).naming id).saying port]

/-- Of two clients that take turns, one is told that its port does not exist. -/
theorem turns_apart_takingTurns :
    let b := Bench.idle (.permissive .m3141)
    let x := (new b (openAndSwitch "COM7" "2") (openAndSwitch "COM3" "9")).turns 1000
      (List.replicate 6 [Side.first, .second]).flatten
    x.first.received = [.success, .success] ∧
      x.second.received = [.success, .fault (.ofError (.noSuchPort ⟨"COM3"⟩ .m3141 9))] := by
  intro b x
  have hapart := @turns_apart 1000 b (openAndSwitch "COM7" "2") (openAndSwitch "COM3" "9")
    (by decide) (by decide) (by decide) (List.replicate 6 [Side.first, .second]).flatten
  obtain ⟨hfirstDone, hsecondDone, hfirst, hsecond, -⟩ := hapart
  exact ⟨(hfirst (hfirstDone (by decide))).trans rfl, (hsecond (hsecondDone (by decide))).trans rfl⟩

end Clients

end SwitchBench
