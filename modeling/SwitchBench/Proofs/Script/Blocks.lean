import SwitchBench.Proofs.Script.Lines

/-! What a script comes to.

Whatever the text of a script, its steps are blocks: the steps of a port line, or one
step of another kind. A block names declared aliases only and stays within what their
models can do. The aliases that it declares can be declared: they are words without
an equals sign, and their identifiers are trimmed texts of one line without a quote. -/
namespace SwitchBench

open Text

/-- What a line of a script can declare. -/
structure Declarable (label : String) (b : Binding) : Prop where
  label_ne : label.toList ≠ []
  label_solid : Solid label.toList
  label_plain : '=' ∉ label.toList
  id_ne : b.id.text.toList ≠ []
  id_trimmed : Trimmed b.id.text.toList
  id_unquoted : '"' ∉ b.id.text.toList
  id_oneLine : '\n' ∉ b.id.text.toList

/-- The steps of one line. -/
inductive Block (as : Aliases) : List Step → Prop where
  | port {label b n} : as.get? label = some b → b.model.accepts n = true →
      Block as [.select label, .port n]
  | fastPort {label b mode n} : as.get? label = some b → b.model.accepts n = true →
      b.model.hasSpeed = true → Block as [.select label, .speed mode, .port n]
  | delay ms : Block as [.delay ms]
  | read {label b} p : as.get? label = some b → Block as [.read label p]
  | cycles {count} : count ≠ 0 → Block as [.cycles count]
  | serial {payload} action : payload.toList ≠ [] → Trimmed payload.toList →
      '\n' ∉ payload.toList → Block as [.serial action payload]
  | finish : Block as [.finish]

/-- The steps of lines. -/
inductive Blocks (as : Aliases) : List Step → Prop where
  | nil : Blocks as []
  | cons {block rest} : Block as block → Blocks as rest → Blocks as (block ++ rest)

/-- What holds of the steps of every block holds of every step. -/
theorem Blocks.forall_mem {as : Aliases} {P : Step → Prop} (hP : ∀ b, Block as b → ∀ step ∈ b, P step)
    {steps : List Step} (h : Blocks as steps) : ∀ step ∈ steps, P step := by
  induction h with
  | nil => exact fun _ h => absurd h List.not_mem_nil
  | cons hblock _ ih => exact List.forall_mem_append.mpr ⟨hP _ hblock, ih⟩

theorem Blocks.cycles_ne_zero {as : Aliases} {steps : List Step} (h : Blocks as steps) {n : UInt32}
    (hn : .cycles n ∈ steps) : n ≠ 0 := by
  have hsteps : ∀ step ∈ steps, step = .cycles n → n ≠ 0 := h.forall_mem fun block hblock step hstep he => by
    subst he
    cases hblock with
    | cycles hne => rw [Step.cycles.inj (List.mem_singleton.mp hstep)]; exact hne
    | _ => simp at hstep
  exact hsteps _ hn rfl

/-! ### More aliases -/

theorem Aliases.get?_mono {as bs : Aliases} (h : as.entries <+: bs.entries) {label : String}
    {b : Binding} (hb : as.get? label = some b) : bs.get? label = some b :=
  get?_of_mem (h.subset (mem_of_get? hb))

/-- Blocks are blocks still when more aliases are declared. -/
theorem Block.mono {as bs : Aliases} (h : as.entries <+: bs.entries) {steps : List Step}
    (hblock : Block as steps) : Block bs steps := by
  cases hblock with
  | port hb hn => exact .port (Aliases.get?_mono h hb) hn
  | fastPort hb hn hs => exact .fastPort (Aliases.get?_mono h hb) hn hs
  | delay ms => exact .delay ms
  | read p hb => exact .read p (Aliases.get?_mono h hb)
  | cycles hne => exact .cycles hne
  | serial a hne ht hl => exact .serial a hne ht hl
  | finish => exact .finish

/-! ### One line -/

namespace Context

/-- Everything declared so far can be declared. -/
def Declarables (c : Context) : Prop := ∀ e ∈ c.aliases.entries, Declarable e.1 e.2

theorem declarable_of_declaration {c : Context} {rest : List Char} {as : Aliases}
    (h : c.declaration rest = .ok as) (hline : '\n' ∉ rest) :
    ∃ label b, Declarable label b ∧ as.entries = c.aliases.entries ++ [(label, b)] := by
  obtain ⟨left, right, path, word, model, hcut, hwords, hne, hsolid, -, hid, hdeclare⟩ :=
    declaration_eq_ok_iff.mp h
  obtain ⟨hrest, hplain⟩ := eq_of_cutFirst? hcut
  have hpath : ∀ c ∈ trim path, c ∈ right ∧ c ≠ '"' := fun c hc =>
    mem_quotedWords (by rw [hwords]; exact List.mem_cons_self ..) c (mem_of_mem_trim hc)
  refine ⟨_, _, ⟨?_, ?_, ?_, ?_, ?_, ?_, ?_⟩, (Aliases.declare?_eq_some_iff.mp hdeclare).2⟩
  · simpa using hne
  · simpa using hsolid
  · simpa using fun hc => hplain (mem_of_mem_trim hc)
  · simpa [SwitchId.ofText] using hid
  · simpa [SwitchId.ofText] using trim_trimmed path
  · simpa [SwitchId.ofText] using fun hc => (hpath _ hc).2 rfl
  · simpa [SwitchId.ofText] using fun hc => hline (by rw [hrest]; simp [(hpath _ hc).1])

theorem block_of_portSteps {c : Context} {rest : List Char} {steps : List Step}
    (h : c.portSteps rest = .ok steps) : Block c.aliases steps := by
  obtain ⟨target, label, digits, b, n, -, hb, -, hn, h⟩ := portSteps_eq_ok_iff.mp h
  rcases h with ⟨-, rfl⟩ | ⟨word, mode, -, -, hs, rfl⟩
  · exact .port hb hn
  · exact .fastPort hb hn hs

theorem block_of_serialSteps {as : Aliases} {rest : List Char} {steps : List Step}
    (h : serialSteps rest = .ok steps) (hline : '\n' ∉ rest) : Block as steps := by
  obtain ⟨action, -, hne, rfl⟩ := serialSteps_eq_ok_iff.mp h
  refine .serial action ?_ ?_ ?_
  · simpa using hne
  · simpa using splitFirst_rest_trimmed rest
  · simpa using fun hc => hline (mem_of_mem_splitFirst_rest hc)

/-- A line adds a block or nothing, and leaves the aliases of before. -/
theorem block_of_line {c d : Context} {l : List Char} {steps : List Step}
    (h : c.line l = .ok (d, steps)) (hline : '\n' ∉ l) (hc : c.Declarables) :
    d.Declarables ∧ c.aliases.entries <+: d.aliases.entries ∧
      (steps = [] ∨ Block c.aliases steps) := by
  have hrest : '\n' ∉ (splitFirst (trim l)).2 := fun hmem =>
    hline (mem_of_mem_trim (mem_of_mem_splitFirst_rest hmem))
  rcases line_eq_ok h with ⟨rfl, rfl⟩ | ⟨o, -, ho⟩
  · exact ⟨hc, List.prefix_rfl, .inl rfl⟩
  cases o with
  | switch =>
    obtain ⟨as, hdecl, rfl, rfl⟩ := ho
    obtain ⟨label, b, hdeclarable, hentries⟩ := declarable_of_declaration hdecl hrest
    refine ⟨fun e he => ?_, ⟨[(label, b)], hentries.symm⟩, .inl rfl⟩
    rw [hentries] at he
    rcases List.mem_append.mp he with he | he
    · exact hc e he
    · rw [List.mem_singleton.mp he]
      exact hdeclarable
  | main =>
    obtain ⟨rfl, rfl⟩ := ho
    exact ⟨hc, List.prefix_rfl, .inl rfl⟩
  | port =>
    obtain ⟨-, rfl, hsteps⟩ := ho
    exact ⟨hc, List.prefix_rfl, .inr (block_of_portSteps hsteps)⟩
  | delay =>
    obtain ⟨-, rfl, hsteps⟩ := ho
    obtain ⟨ms, -, rfl⟩ := delaySteps_eq_ok_iff.mp hsteps
    exact ⟨hc, List.prefix_rfl, .inr (.delay ms)⟩
  | read =>
    obtain ⟨-, rfl, hsteps⟩ := ho
    obtain ⟨label, word, b, p, -, hb, -, rfl⟩ := readSteps_eq_ok_iff.mp hsteps
    exact ⟨hc, List.prefix_rfl, .inr (.read p hb)⟩
  | cycles =>
    obtain ⟨rfl, hsteps⟩ := ho
    obtain ⟨word, count, -, -, hne, rfl⟩ := cycleSteps_eq_ok_iff.mp hsteps
    exact ⟨hc, List.prefix_rfl, .inr (.cycles hne)⟩
  | serial =>
    obtain ⟨-, rfl, hsteps⟩ := ho
    exact ⟨hc, List.prefix_rfl, .inr (block_of_serialSteps hsteps hrest)⟩
  | finish =>
    obtain ⟨rfl, rfl⟩ := ho
    exact ⟨hc, List.prefix_rfl, .inr .finish⟩

end Context

/-! ### All lines -/

/-- Declarations that can be made and steps in blocks. -/
structure Sequence.WellFormed (s : Sequence) : Prop where
  declarable : ∀ e ∈ s.aliases.entries, Declarable e.1 e.2
  blocks : Blocks s.aliases s.steps

private theorem foldl_cycles_ne_zero {steps : List Step} {m : UInt32} (hm : m ≠ 0)
    (h : ∀ n, .cycles n ∈ steps → n ≠ 0) :
    steps.foldl (fun count step => step.cycles?.getD count) m ≠ 0 := by
  induction steps generalizing m with
  | nil => exact hm
  | cons st rest ih =>
    refine ih ?_ fun n hn => h n (List.mem_cons_of_mem st hn)
    cases st with
    | cycles n => exact h n (List.mem_cons_self ..)
    | _ => exact hm

/-- A batch runs once at least. -/
theorem Sequence.WellFormed.cycles_pos {q : Sequence} (h : q.WellFormed) : 0 < q.cycles.toNat := by
  have hne : q.cycles ≠ 0 := foldl_cycles_ne_zero (by decide) fun n => h.blocks.cycles_ne_zero
  exact Nat.pos_of_ne_zero fun h0 => hne (UInt32.toNat_inj.mp h0)

namespace Reading

theorem ofLines_wellFormed (c : Context) (n : Nat) (ls : List (List Char)) (hc : c.Declarables)
    (hlines : ∀ l ∈ ls, '\n' ∉ l) :
    (ofLines c n ls).sequence.WellFormed ∧
      c.aliases.entries <+: (ofLines c n ls).sequence.aliases.entries := by
  induction ls generalizing c n with
  | nil => exact ⟨⟨hc, .nil⟩, List.prefix_rfl⟩
  | cons l rest ih =>
    have hrest : ∀ m ∈ rest, '\n' ∉ m := fun m hm => hlines m (List.mem_cons_of_mem l hm)
    unfold ofLines
    split
    next d steps hline =>
      obtain ⟨hd, hcd, hsteps⟩ :=
        Context.block_of_line hline (hlines l (List.mem_cons_self ..)) hc
      obtain ⟨hwf, hext⟩ := ih d (n + 1) hd hrest
      refine ⟨⟨hwf.declarable, ?_⟩, hcd.trans hext⟩
      rcases hsteps with rfl | hblock
      · exact hwf.blocks
      · exact .cons (hblock.mono (hcd.trans hext)) hwf.blocks
    next => exact ih c (n + 1) hc hrest

/-- **What a script comes to is well formed**, whatever its text. -/
theorem ofText_wellFormed (text : List Char) : (ofText text).sequence.WellFormed :=
  (ofLines_wellFormed .start 1 _ (fun _ he => absurd he List.not_mem_nil) fun _ h =>
    not_mem_lines h).1

end Reading

end SwitchBench
