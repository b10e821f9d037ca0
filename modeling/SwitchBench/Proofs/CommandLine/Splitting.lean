import SwitchBench.CommandLine.Split

/-! Where a command begins.

The arguments in front of a command are flags of settings, each of which brings its value along or has it in
the argument behind it (`ArgumentSplit.Flagged`). The last flag of all may lack its value. Going through the
arguments one flag at a time keeps what is split off equal to the arguments passed so far
(`ArgumentSplit.Flagged.goOn_eq`), and it ends where no flag follows (`ArgumentSplit.exists_flagged`). A split
of that kind can be made in one way only, and it loses no argument (**`ArgumentSplit.splits_iff`**). -/
namespace SwitchBench

theorem Flag.name_plain (f : Flag) : '=' ∉ f.name.toList := by
  rcases f with _ | k
  · decide +kernel
  · cases k <;> decide +kernel

theorem Flag.ofName?_eq_some_iff {cs : List Char} {f : Flag} : ofName? cs = some f ↔ cs = f.name.toList := by
  constructor
  · intro h
    have hname : (f.name.toList == cs) = true := List.find?_some (p := fun f : Flag => f.name.toList == cs) h
    exact (eq_of_beq hname).symm
  · rintro rfl
    exact f.ofName?_name

namespace ArgumentSplit

/-! ### Arguments -/

/-- A flag behind its two dashes. -/
def dashed (f : Flag) : List Char := '-' :: '-' :: f.name.toList

/-- A flag that has its value with it. -/
def BringsValue (cs : List Char) : Prop := ∃ (f : Flag) (value : List Char), cs = dashed f ++ '=' :: value

/-- A flag and nothing else. -/
def NeedsValue (cs : List Char) : Prop := ∃ f : Flag, cs = dashed f

theorem hasValue?_bringsValue {cs : List Char} (h : BringsValue cs) : hasValue? cs = some true := by
  obtain ⟨f, value, rfl⟩ := h
  rw [dashed, List.cons_append, List.cons_append, hasValue?, Text.cutFirst?_append value f.name_plain]
  simp [f.ofName?_name]

theorem hasValue?_needsValue {cs : List Char} (h : NeedsValue cs) : hasValue? cs = some false := by
  obtain ⟨f, rfl⟩ := h
  rw [dashed, hasValue?, Text.cutFirst?_eq_none f.name_plain]
  simp [f.ofName?_name]

/-- **Whatever counts as a flag is one**, with a value or without. -/
theorem flag_of_hasValue? {cs : List Char} {b : Bool} (h : hasValue? cs = some b) :
    if b then BringsValue cs else NeedsValue cs := by
  unfold hasValue? at h
  split at h
  next text =>
    split at h
    next name value hcut =>
      obtain ⟨f, hf, rfl⟩ := Option.map_eq_some_iff.mp h
      obtain ⟨rfl, -⟩ := Text.eq_of_cutFirst? hcut
      rw [if_pos rfl, Flag.ofName?_eq_some_iff.mp hf]
      exact ⟨f, value, rfl⟩
    next hcut =>
      obtain ⟨f, hf, rfl⟩ := Option.map_eq_some_iff.mp h
      rw [if_neg Bool.false_ne_true, Flag.ofName?_eq_some_iff.mp hf]
      exact ⟨f, rfl⟩
  next => cases h

theorem hasValue?_eq_none_iff {cs : List Char} : hasValue? cs = none ↔ ¬ BringsValue cs ∧ ¬ NeedsValue cs := by
  constructor
  · intro h
    refine ⟨fun hb => ?_, fun hn => ?_⟩
    · cases h.symm.trans (hasValue?_bringsValue hb)
    · cases h.symm.trans (hasValue?_needsValue hn)
  · rintro ⟨hb, hn⟩
    cases h : hasValue? cs with
    | none => rfl
    | some b => cases b with
      | true => exact absurd (flag_of_hasValue? h) hb
      | false => exact absurd (flag_of_hasValue? h) hn

/-! ### Flags in front of a command -/

variable {α : Type} (text : α → List Char)

/-- Arguments that are flags and their values, with `after` behind them. -/
inductive Flagged (after : List α) : List α → Prop
  | nil : Flagged after []
  | brings {arg : α} {front : List α} (h : BringsValue (text arg)) (hfront : Flagged after front) :
    Flagged after (arg :: front)
  | needs {arg value : α} {front : List α} (h : NeedsValue (text arg)) (hfront : Flagged after front) :
    Flagged after (arg :: value :: front)
  /-- Behind the last flag there may be nothing. -/
  | lacks {arg : α} (h : NeedsValue (text arg)) (hend : after = []) : Flagged after [arg]

/-- The next argument is no flag, if there is a next one. -/
def Stops (after : List α) : Prop := ∀ arg ∈ after.head?, ¬ BringsValue (text arg) ∧ ¬ NeedsValue (text arg)

variable {text}

/-- With no flag next, nothing more is split off. -/
theorem Stops.goOn_eq {after : List α} (h : Stops text after) (split : ArgumentSplit α) :
    goOn text split after = split := by
  cases after with
  | nil => rfl
  | cons arg rest =>
    unfold goOn
    rw [hasValue?_eq_none_iff.mpr (h arg rfl)]

/-- Arguments that are split off are passed. -/
theorem foldl_extend (front : List α) (split : ArgumentSplit α) :
    front.foldl extend split = ⟨split.flagArguments ++ front, split.commandStart + front.length⟩ := by
  induction front generalizing split with
  | nil => simp
  | cons arg front ih =>
    rw [List.foldl_cons, ih]
    simp [extend, Nat.add_assoc, Nat.add_comm 1]

/-- **Flags and their values are split off one by one**, up to where no flag follows. -/
theorem Flagged.goOn_eq {front after : List α} (h : Flagged text after front) (hstops : Stops text after)
    (split : ArgumentSplit α) : goOn text split (front ++ after) = front.foldl extend split := by
  induction h generalizing split with
  | nil => exact hstops.goOn_eq split
  | @brings arg front h _ ih =>
    rw [List.cons_append]
    unfold goOn
    rw [hasValue?_bringsValue h]
    exact ih (split.extend arg)
  | @needs arg value front h _ ih =>
    rw [List.cons_append, List.cons_append]
    unfold goOn
    rw [hasValue?_needsValue h]
    exact ih ((split.extend arg).extend value)
  | lacks h hend =>
    rw [hend, List.append_nil]
    unfold goOn
    rw [hasValue?_needsValue h]
    rfl

variable (text) in
/-- Every list of arguments has flags in front, if only none, and no flag behind them. -/
theorem exists_flagged (args : List α) :
    ∃ front after, args = front ++ after ∧ Flagged text after front ∧ Stops text after := by
  match args with
  | [] => exact ⟨[], [], rfl, .nil, fun _ h => nomatch h⟩
  | arg :: rest =>
    cases h : hasValue? (text arg) with
    | none =>
      refine ⟨[], arg :: rest, rfl, .nil, fun a ha => ?_⟩
      cases ha
      exact hasValue?_eq_none_iff.mp h
    | some b =>
      have hflag := flag_of_hasValue? h
      cases b with
      | true =>
        obtain ⟨front, after, rfl, hfront, hstops⟩ := exists_flagged rest
        exact ⟨arg :: front, after, rfl, .brings hflag hfront, hstops⟩
      | false =>
        match rest with
        | [] => exact ⟨[arg], [], rfl, .lacks hflag rfl, fun _ h => nomatch h⟩
        | value :: rest =>
          obtain ⟨front, after, rfl, hfront, hstops⟩ := exists_flagged rest
          exact ⟨arg :: value :: front, after, rfl, .needs hflag hfront, hstops⟩
termination_by args.length

/-! ### The split -/

variable (text) in
/-- What is to be got from a command line: the name of the program goes to both sides, all other arguments
in front of the command are flags and their values, and the command does not begin with a flag. -/
structure Splits (args : List α) (split : ArgumentSplit α) (command : List α) : Prop where
  start_pos : 1 ≤ split.commandStart
  start_le : split.commandStart ≤ args.length
  flagArguments : split.flagArguments = args.take split.commandStart
  command : command = args.take 1 ++ args.drop split.commandStart
  flagged : Flagged text (args.drop split.commandStart) ((args.take split.commandStart).drop 1)
  stops : Stops text (args.drop split.commandStart)

namespace Splits
variable {name : α} {rest command : List α} {split : ArgumentSplit α}

theorem take_eq (h : Splits text (name :: rest) split command) :
    (name :: rest).take split.commandStart = name :: rest.take (split.commandStart - 1) :=
  List.take_cons h.start_pos

theorem drop_eq (h : Splits text (name :: rest) split command) :
    (name :: rest).drop split.commandStart = rest.drop (split.commandStart - 1) :=
  List.drop_cons h.start_pos

/-- **There is no other split** than the one that is made: going on flag by flag leads to its end. -/
theorem eq_ofList (h : Splits text (name :: rest) split command) : split = ofList text (name :: rest) := by
  have hflagged := h.flagged
  have hstops := h.stops
  rw [h.take_eq, h.drop_eq, List.drop_one, List.tail_cons] at hflagged
  rw [h.drop_eq] at hstops
  have hgoes := (hflagged.goOn_eq hstops ⟨[name], 1⟩).trans (foldl_extend _ _)
  have hstart : 1 + (rest.take (split.commandStart - 1)).length = split.commandStart := by
    have hlow := h.start_pos
    have hhigh := h.start_le
    rw [List.length_cons] at hhigh
    rw [List.length_take_of_le (by omega)]
    omega
  rw [List.take_append_drop, hstart, List.singleton_append, ← h.take_eq, ← h.flagArguments] at hgoes
  exact hgoes.symm

/-- **No argument is lost**, and none changes its place. -/
theorem rest_eq (h : Splits text (name :: rest) split command) :
    rest = split.flagArguments.drop 1 ++ command.drop 1 := by
  rw [h.flagArguments, h.command, h.take_eq, h.drop_eq]
  exact (List.take_append_drop _ rest).symm

end Splits

/-- The split that is made is as it is to be. -/
theorem splits_ofList (text : α → List Char) (name : α) (rest : List α) :
    Splits text (name :: rest) (ofList text (name :: rest))
      ((ofList text (name :: rest)).commandArguments (name :: rest)) := by
  obtain ⟨front, after, rfl, hfront, hstops⟩ := exists_flagged text rest
  have hsplit : ofList text (name :: (front ++ after)) = ⟨name :: front, front.length + 1⟩ := by
    rw [Nat.add_comm]
    exact (hfront.goOn_eq hstops ⟨[name], 1⟩).trans (foldl_extend front _)
  have htake : (name :: (front ++ after)).take (front.length + 1) = name :: front := by
    rw [List.take_succ_cons, List.take_left]
  have hdrop : (name :: (front ++ after)).drop (front.length + 1) = after := by
    rw [List.drop_succ_cons, List.drop_left]
  rw [hsplit]
  exact {
    start_pos := Nat.le_add_left ..
    start_le := by simp
    flagArguments := htake.symm
    command := rfl
    flagged := by
      rw [hdrop, htake]
      exact hfront
    stops := by
      rw [hdrop]
      exact hstops }

/-- **A command line is split in one way.** Whatever arguments show, the split that is made is one that
leaves the flags of settings and their values on one side and the command on the other, and there is no
other. Behind the name of the program every argument is on one of the two sides, in its place. -/
theorem splits_iff (text : α → List Char) (name : α) (rest : List α) :
    (∀ split command, Splits text (name :: rest) split command ↔
        split = ofList text (name :: rest) ∧ command = split.commandArguments (name :: rest)) ∧
      rest = (ofList text (name :: rest)).flagArguments.drop 1 ++
        ((ofList text (name :: rest)).commandArguments (name :: rest)).drop 1 := by
  refine ⟨fun split command => ⟨fun h => ⟨h.eq_ofList, h.command⟩, ?_⟩, (splits_ofList text name rest).rest_eq⟩
  rintro ⟨rfl, rfl⟩
  exact splits_ofList text name rest

/-- A value may look like a flag, and one that is brought along may hold an equals sign. -/
example : ofArguments ["switchctl", "--role", "--role", "--log-filter=a=b", "run", "--role"] =
    ⟨["switchctl", "--role", "--role", "--log-filter=a=b"], 4⟩ := by
  decide +kernel

end ArgumentSplit

end SwitchBench
