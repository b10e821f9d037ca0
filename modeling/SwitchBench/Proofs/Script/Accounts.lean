import Mathlib.Data.List.Basic
import SwitchBench.Proofs.Script.Blocks

/-! Scripts line by line.

A reader that takes a script line by line can keep an account of it (`Account`): the steps,
the latest mark for the cycles, the switches that the steps need, and whether the batch was
ended. Each line brings the parts up to date that it concerns, with the aliases as they are
bound there. At the end the account agrees with what is read off the steps
(`Account.ofText_gives`), and the steps fall into the blocks of the lines in one way only
(`Shape.split_unique`). -/
namespace SwitchBench

open Text

/-! ### Blocks -/

/-- What the steps of one line look like, whatever they name. -/
inductive Shape : List Step → Prop
  | port label n : Shape [.select label, .port n]
  | fastPort label mode n : Shape [.select label, .speed mode, .port n]
  | delay ms : Shape [.delay ms]
  | read label p : Shape [.read label p]
  | cycles count : Shape [.cycles count]
  | serial action payload : Shape [.serial action payload]
  | finish : Shape [.finish]

theorem Block.shape {as : Aliases} {steps : List Step} (h : Block as steps) : Shape steps := by
  cases h with
  | port => exact .port _ _
  | fastPort => exact .fastPort _ _ _
  | delay ms => exact .delay ms
  | read p => exact .read _ p
  | cycles => exact .cycles _
  | serial action => exact .serial action _
  | finish => exact .finish

namespace Shape

/-- How many steps the first line has, as far as the steps tell. -/
def firstLength : List Step → Nat
  | .select _ :: .speed _ :: _ => 3
  | .select _ :: _ => 2
  | _ => 1

theorem firstLength_append {block : List Step} (h : Shape block) (rest : List Step) :
    firstLength (block ++ rest) = block.length := by
  cases h <;> rfl

theorem ne_nil {block : List Step} (h : Shape block) : block ≠ [] := by
  cases h <;> simp

/-- **Steps fall into blocks in one way.** The first steps tell how long the first block is. -/
theorem split_unique {bs cs : List (List Step)} (hbs : ∀ b ∈ bs, Shape b) (hcs : ∀ c ∈ cs, Shape c)
    (h : bs.flatten = cs.flatten) : bs = cs := by
  induction bs generalizing cs with
  | nil =>
    cases cs with
    | nil => rfl
    | cons c cs =>
      have hc := (hcs c (List.mem_cons_self ..)).ne_nil
      exact absurd (List.append_eq_nil_iff.mp h.symm).1 hc
  | cons b bs ih =>
    have hb := hbs b (List.mem_cons_self ..)
    cases cs with
    | nil => exact absurd (List.append_eq_nil_iff.mp h).1 hb.ne_nil
    | cons c cs =>
      have hc := hcs c (List.mem_cons_self ..)
      rw [List.flatten_cons, List.flatten_cons] at h
      have hlength : b.length = c.length := by
        rw [← hb.firstLength_append bs.flatten, h, hc.firstLength_append]
      obtain ⟨rfl, hrest⟩ := List.append_inj h hlength
      rw [ih (fun x hx => hbs x (List.mem_cons_of_mem b hx))
        (fun x hx => hcs x (List.mem_cons_of_mem b hx)) hrest]

end Shape

theorem Blocks.exists_split {as : Aliases} {steps : List Step} (h : Blocks as steps) :
    ∃ bs : List (List Step), bs.flatten = steps ∧ ∀ b ∈ bs, Block as b := by
  induction h with
  | nil => exact ⟨[], rfl, fun b hb => absurd hb List.not_mem_nil⟩
  | @cons block rest hblock _ ih =>
    obtain ⟨bs, rfl, hbs⟩ := ih
    exact ⟨block :: bs, rfl, List.forall_mem_cons.mpr ⟨hblock, hbs⟩⟩

/-- The alias that a step names, if it names one, is bound. -/
def Step.Bound (as : Aliases) (step : Step) : Prop :=
  ∀ label, step.alias? = some label → ∃ b, as.get? label = some b

theorem Step.bound_of_unnamed {as : Aliases} {step : Step} (h : step.alias? = none) : step.Bound as := by
  intro label hlabel
  rw [h] at hlabel
  cases hlabel

theorem Step.bound_of_get? {as : Aliases} {step : Step} {label : String} {b : Binding}
    (h : step.alias? = some label) (hb : as.get? label = some b) : step.Bound as := by
  intro l hl
  rw [h] at hl
  cases hl
  exact ⟨b, hb⟩

theorem Block.bound {as : Aliases} {block : List Step} (h : Block as block) :
    ∀ step ∈ block, step.Bound as := by
  cases h with
  | port hb _ => simpa using ⟨Step.bound_of_get? rfl hb, Step.bound_of_unnamed rfl⟩
  | fastPort hb _ _ =>
    simpa using ⟨Step.bound_of_get? rfl hb, Step.bound_of_unnamed rfl, Step.bound_of_unnamed rfl⟩
  | read p hb => simpa using Step.bound_of_get? rfl hb
  | delay _ | cycles _ | serial _ _ _ _ | finish => simpa using Step.bound_of_unnamed rfl

theorem Block.payload {as : Aliases} {block : List Step} (h : Block as block) {action : SerialAction}
    {payload : String} (hmem : .serial action payload ∈ block) :
    payload ≠ "" ∧ Trimmed payload.toList := by
  cases h with
  | serial _ hne htrimmed _ =>
    cases List.mem_singleton.mp hmem
    exact ⟨fun he => hne (by rw [he]; rfl), htrimmed⟩
  | _ => simp at hmem

/-! ### Accounts -/

/-- An account of the lines so far. -/
structure Account where
  context : Context
  steps : List Step
  /-- What the latest mark asks for. -/
  cycles : Option UInt32
  required : Roster Unit
  isEnded : Bool

namespace Account

def start : Account := ⟨.start, [], none, .empty, false⟩

/-- One more step, with its alias as it is bound now. -/
def add (t : Account) (step : Step) : Account :=
  { t with
    steps := t.steps ++ [step]
    cycles := step.cycles?.or t.cycles
    required := match step.alias?.bind t.context.aliases.get? with
      | some b => t.required.set b.id ()
      | none => t.required
    isEnded := t.isEnded || step == .finish }

/-- One more line. -/
def line (t : Account) (text : List Char) : Account :=
  match t.context.line text with
  | .ok (c, steps) => steps.foldl add { t with context := c }
  | .error _ => t

def lines (t : Account) (ls : List (List Char)) : Account := ls.foldl line t

def ofText (text : List Char) : Account := lines start (Text.lines text)

/-- The parts of an account are what its steps say, and their aliases are bound. -/
structure Sound (t : Account) : Prop where
  declarables : t.context.Declarables
  bound : ∀ step ∈ t.steps, step.Bound t.context.aliases
  cycles : t.cycles = (t.steps.filterMap Step.cycles?).getLast?
  required : t.required = Sequence.required ⟨t.steps, t.context.aliases⟩
  isEnded : t.isEnded = t.steps.contains .finish

theorem sound_start : start.Sound :=
  ⟨fun _ h => absurd h List.not_mem_nil, fun _ h => absurd h List.not_mem_nil, rfl, rfl, rfl⟩

theorem required_add (steps : List Step) (as : Aliases) (step : Step) :
    Sequence.required ⟨steps ++ [step], as⟩ = match step.alias?.bind as.get? with
      | some b => (Sequence.required ⟨steps, as⟩).set b.id ()
      | none => Sequence.required ⟨steps, as⟩ := by
  unfold Sequence.required Roster.ofList
  cases h : step.alias?.bind as.get? <;> simp [List.filterMap_append, h]

/-- One more step keeps an account sound. -/
theorem Sound.add {t : Account} (h : t.Sound) {step : Step} (hbound : step.Bound t.context.aliases) :
    (t.add step).Sound where
  declarables := h.declarables
  bound := List.forall_mem_append.mpr ⟨h.bound, List.forall_mem_singleton.mpr hbound⟩
  cycles := by
    show step.cycles?.or t.cycles = _
    rw [h.cycles]
    cases hstep : step.cycles? <;> simp [Account.add, List.filterMap_append, hstep]
  required := by
    show (match step.alias?.bind t.context.aliases.get? with
      | some b => t.required.set b.id ()
      | none => t.required) = _
    rw [h.required]
    exact (required_add t.steps t.context.aliases step).symm
  isEnded := by
    show (t.isEnded || step == .finish) = (t.steps ++ [step]).contains .finish
    rw [h.isEnded, Bool.eq_iff_iff]
    simp only [Bool.or_eq_true, beq_iff_eq, List.contains_eq_mem, decide_eq_true_eq, List.mem_append,
      List.mem_singleton]
    exact or_congr_right eq_comm

theorem Sound.foldl_add {t : Account} (h : t.Sound) {steps : List Step}
    (hsteps : ∀ step ∈ steps, step.Bound t.context.aliases) : (steps.foldl Account.add t).Sound := by
  induction steps generalizing t with
  | nil => exact h
  | cons step rest ih =>
    obtain ⟨hstep, hrest⟩ := List.forall_mem_cons.mp hsteps
    exact ih (h.add hstep) hrest

theorem foldl_add_eq (t : Account) (steps : List Step) :
    (steps.foldl add t).context = t.context ∧ (steps.foldl add t).steps = t.steps ++ steps := by
  induction steps generalizing t with
  | nil => exact ⟨rfl, (List.append_nil _).symm⟩
  | cons step rest ih =>
    obtain ⟨hcontext, hsteps⟩ := ih (t.add step)
    refine ⟨hcontext, hsteps.trans ?_⟩
    show t.steps ++ [step] ++ rest = _
    simp

/-- A line that counts is accounted for by its context and its steps, -/
theorem line_of_ok {t : Account} {l : List Char} {c : Context} {steps : List Step}
    (h : t.context.line l = .ok (c, steps)) : (t.line l).context = c ∧ (t.line l).steps = t.steps ++ steps := by
  unfold line
  rw [h]
  exact foldl_add_eq { t with context := c } steps

/-- and a line that does not count is not. -/
theorem line_of_error {t : Account} {l : List Char} {p : Problem} (h : t.context.line l = .error p) :
    t.line l = t := by
  unfold line
  rw [h]

theorem lines_append (t : Account) (front rest : List (List Char)) :
    t.lines (front ++ rest) = (t.lines front).lines rest := List.foldl_append

/-- More aliases say nothing new about steps whose aliases are bound. -/
theorem required_mono {as bs : Aliases} (h : as.entries <+: bs.entries) {steps : List Step}
    (hbound : ∀ step ∈ steps, step.Bound as) :
    Sequence.required ⟨steps, as⟩ = Sequence.required ⟨steps, bs⟩ := by
  have hget : ∀ step ∈ steps, step.alias?.bind as.get? = step.alias?.bind bs.get? := by
    intro step hstep
    cases hlabel : step.alias? with
    | none => rfl
    | some label =>
      obtain ⟨b, hb⟩ := hbound step hstep label hlabel
      exact hb.trans (Aliases.get?_mono h hb).symm
  exact congrArg (fun es => Roster.ofList (es.map fun b => (b.id, ()))) (List.filterMap_congr hget)

theorem Sound.declare {t : Account} (h : t.Sound) {c : Context} (hc : c.Declarables)
    (hmore : t.context.aliases.entries <+: c.aliases.entries) : ({ t with context := c } : Account).Sound where
  declarables := hc
  bound step hstep label hlabel := by
    obtain ⟨b, hb⟩ := h.bound step hstep label hlabel
    exact ⟨b, Aliases.get?_mono hmore hb⟩
  cycles := h.cycles
  required := h.required.trans (required_mono hmore h.bound)
  isEnded := h.isEnded

/-- **One more line keeps an account sound**, whatever it says. -/
theorem Sound.line {t : Account} (h : t.Sound) {l : List Char} (hl : '\n' ∉ l) : (t.line l).Sound := by
  unfold Account.line
  split
  next c steps hline =>
    obtain ⟨hc, hmore, hsteps⟩ := Context.block_of_line hline hl h.declarables
    apply (h.declare hc hmore).foldl_add
    rcases hsteps with rfl | hblock
    · exact fun _ h => absurd h List.not_mem_nil
    · exact (hblock.mono hmore).bound
  next => exact h

theorem Sound.lines {t : Account} (h : t.Sound) {ls : List (List Char)} (hls : ∀ l ∈ ls, '\n' ∉ l) :
    (t.lines ls).Sound := by
  induction ls generalizing t with
  | nil => exact h
  | cons l rest ih =>
    obtain ⟨hl, hrest⟩ := List.forall_mem_cons.mp hls
    exact ih (h.line hl) hrest

/-- An account has the steps and the aliases that the lines come to. -/
theorem lines_eq (t : Account) (n : Nat) (ls : List (List Char)) :
    (t.lines ls).steps = t.steps ++ (Reading.ofLines t.context n ls).sequence.steps ∧
      (t.lines ls).context.aliases = (Reading.ofLines t.context n ls).sequence.aliases := by
  induction ls generalizing t n with
  | nil => exact ⟨(List.append_nil _).symm, rfl⟩
  | cons l rest ih =>
    obtain ⟨hsteps, haliases⟩ := ih (t.line l) (n + 1)
    show (lines (t.line l) rest).steps = _ ∧ (lines (t.line l) rest).context.aliases = _
    rw [hsteps, haliases]
    cases hline : t.context.line l with
    | error p =>
      rw [Reading.ofLines_error hline, line_of_error hline]
      exact ⟨rfl, rfl⟩
    | ok r =>
      obtain ⟨c, steps⟩ := r
      obtain ⟨hcontext, hadded⟩ := line_of_ok hline
      rw [Reading.ofLines_cons hline, hcontext, hadded]
      exact ⟨List.append_assoc .., rfl⟩

/-- An account is that of a batch. -/
structure Gives (t : Account) (q : Sequence) : Prop where
  steps : t.steps = q.steps
  aliases : t.context.aliases = q.aliases
  cycles : t.cycles.getD 1 = q.cycles
  required : t.required = q.required
  isEnded : t.isEnded = q.isEnded

end Account

/-! ### Batches -/

/-- The latest mark counts. -/
theorem Sequence.cycles_eq (q : Sequence) :
    q.cycles = (q.steps.filterMap Step.cycles?).getLast?.getD 1 := by
  have hfold : ∀ (steps : List Step) (m : UInt32), steps.foldl (fun count step => step.cycles?.getD count) m =
      (steps.filterMap Step.cycles?).getLast?.getD m := by
    intro steps
    induction steps with
    | nil => exact fun _ => rfl
    | cons step rest ih =>
      intro m
      rw [List.foldl_cons, ih]
      cases h : step.cycles? <;> simp [h, List.getLast?_cons]
  exact hfold q.steps 1

theorem Sequence.mem_requiredIds_iff {q : Sequence} {id : SwitchId} : id ∈ q.requiredIds ↔
    ∃ step ∈ q.steps, ∃ label b, step.alias? = some label ∧ q.aliases.get? label = some b ∧ b.id = id := by
  unfold Sequence.requiredIds Sequence.required
  rw [Roster.mem_ids_ofList_iff]
  simp only [List.mem_map, List.mem_filterMap, Option.bind_eq_some_iff, Prod.mk.injEq]
  constructor
  · rintro ⟨_, b, ⟨step, hstep, label, hlabel, hb⟩, rfl, -⟩
    exact ⟨step, hstep, label, b, hlabel, hb, rfl⟩
  · rintro ⟨step, hstep, label, b, hlabel, hb, rfl⟩
    exact ⟨(), b, ⟨step, hstep, label, hlabel, hb⟩, rfl, trivial⟩

theorem Sequence.isEnded_iff {q : Sequence} : q.isEnded = true ↔ .finish ∈ q.steps := by
  simp [Sequence.isEnded]

theorem Account.Sound.gives {t : Account} (h : t.Sound) {q : Sequence} (hsteps : t.steps = q.steps)
    (haliases : t.context.aliases = q.aliases) : t.Gives q where
  steps := hsteps
  aliases := haliases
  cycles := by rw [h.cycles, hsteps, q.cycles_eq]
  required := by rw [h.required, hsteps, haliases]
  isEnded := by rw [h.isEnded, hsteps]; rfl

/-- **The account of a script, line by line, is that of the batch it comes to.** -/
theorem Account.ofText_gives (text : List Char) : (ofText text).Gives (Reading.ofText text).sequence := by
  have hsound : (ofText text).Sound := sound_start.lines fun _ h => not_mem_lines h
  obtain ⟨hsteps, haliases⟩ := lines_eq start 1 (Text.lines text)
  exact hsound.gives hsteps haliases

/-- What can be relied on in a batch. -/
structure Sequence.Orderly (q : Sequence) : Prop where
  /-- The steps are split into blocks, each within what the model of its switch can do, and
  in no other way into blocks of any kind. -/
  split : ∃ bs : List (List Step), bs.flatten = q.steps ∧ (∀ b ∈ bs, Block q.aliases b) ∧
    ∀ cs : List (List Step), cs.flatten = q.steps → (∀ c ∈ cs, Shape c) → cs = bs
  bound : ∀ step ∈ q.steps, step.Bound q.aliases
  distinct : (q.aliases.entries.map (·.1)).Nodup
  ids : ∀ e ∈ q.aliases.entries, e.2.id.text ≠ "" ∧ Trimmed e.2.id.text.toList
  payloads : ∀ action payload, .serial action payload ∈ q.steps →
    payload ≠ "" ∧ Trimmed payload.toList
  required : ∀ id, id ∈ q.requiredIds ↔ ∃ step ∈ q.steps, ∃ label b,
    step.alias? = some label ∧ q.aliases.get? label = some b ∧ b.id = id
  cycles : q.cycles = (q.steps.filterMap Step.cycles?).getLast?.getD 1
  cycles_pos : 1 ≤ q.cycles
  ended : q.isEnded = true ↔ .finish ∈ q.steps

theorem Sequence.WellFormed.orderly {q : Sequence} (h : q.WellFormed) : q.Orderly where
  split := by
    obtain ⟨bs, hflatten, hbs⟩ := h.blocks.exists_split
    refine ⟨bs, hflatten, hbs, fun cs hcs hshapes => ?_⟩
    exact Shape.split_unique hshapes (fun b hb => (hbs b hb).shape) (hcs.trans hflatten.symm)
  bound := h.blocks.forall_mem fun _ hblock => hblock.bound
  distinct := q.aliases.distinct
  ids e he := by
    have hdeclarable := h.declarable e he
    exact ⟨fun hid => hdeclarable.id_ne (by rw [hid]; rfl), hdeclarable.id_trimmed⟩
  payloads action payload hmem :=
    h.blocks.forall_mem (P := fun step => step = .serial action payload → payload ≠ "" ∧ Trimmed payload.toList)
      (fun _ hblock step hstep he => hblock.payload (he ▸ hstep)) _ hmem rfl
  required _ := Sequence.mem_requiredIds_iff
  cycles := q.cycles_eq
  cycles_pos := UInt32.le_iff_toNat_le.mpr h.cycles_pos
  ended := Sequence.isEnded_iff

/-- **What a script comes to is orderly**, whatever its text, and so is the account of it that is
kept line by line. -/
theorem Reading.ofText_orderly (text : List Char) : (ofText text).sequence.Orderly ∧
    (Account.ofText text).Gives (ofText text).sequence :=
  ⟨(ofText_wellFormed text).orderly, Account.ofText_gives text⟩

end SwitchBench
