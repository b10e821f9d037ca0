import SwitchBench.Proofs.Script.Blocks
import SwitchBench.Proofs.Switch.Names
import SwitchBench.Proofs.Text.Numerals

/-! The canonical text of a script is read back.

`render` writes one line for each declaration, the line `main:` and one line for each
block of steps. Each of these lines is accepted and means what it was written for, so
a well-formed sequence comes back whole and without a warning (`ofText_render`). What a
script comes to is well formed, so reading, writing and reading again is reading once. -/
namespace SwitchBench

open Text

namespace Opcode

theorem name_solid (o : Opcode) : Solid o.name.toList := by cases o <;> decide

theorem name_ne_nil (o : Opcode) : o.name.toList ≠ [] := by cases o <;> decide

theorem name_head (o : Opcode) (rest : List Char) : (o.name.toList ++ rest).head? ≠ some '#' := by
  cases o <;> simp [name]

end Opcode

theorem SerialAction.name_solid (a : SerialAction) : Solid a.name.toList := by cases a <;> decide

theorem SerialAction.name_ne_nil (a : SerialAction) : a.name.toList ≠ [] := by cases a <;> decide

/-! ### Lines that are written -/

/-- Parts of a line around a blank. -/
theorem newline_not_mem_join {v w : List Char} (hv : '\n' ∉ v) (hw : '\n' ∉ w) : '\n' ∉ v ++ ' ' :: w := by
  intro h
  rcases List.mem_append.mp h with h | h
  · exact hv h
  · exact hw ((List.mem_cons.mp h).resolve_left (by decide))

namespace Context

/-- An opcode and what follows it, as a line. -/
theorem line_instruction (c : Context) (o : Opcode) {rest : List Char} (h : Trimmed rest)
    (hne : rest ≠ []) : c.line (o.name.toList ++ ' ' :: rest) = c.instruction o rest := by
  have htrim : trim (o.name.toList ++ ' ' :: rest) = o.name.toList ++ ' ' :: rest :=
    (o.name_solid.trimmed.join h o.name_ne_nil hne [' ']).trim_eq
  have hsplit : splitFirst (o.name.toList ++ ' ' :: rest) = (o.name.toList, rest) := by
    rw [splitFirst_append o.name_solid (by decide), h.trim_eq]
  have hline := line_of_opcode c (l := o.name.toList ++ ' ' :: rest) (o := o)
  rw [htrim, hsplit] at hline
  exact hline (o.name_head _) o.ofWord?_name

/-- An opcode alone on a line. -/
theorem line_opcode (c : Context) (o : Opcode) : c.line o.name.toList = c.instruction o [] := by
  have htrim := o.name_solid.trimmed.trim_eq
  have hsplit := splitFirst_of_solid o.name_solid
  have hline := line_of_opcode c (l := o.name.toList) (o := o)
  rw [htrim, hsplit] at hline
  exact hline (by simpa using o.name_head []) o.ofWord?_name

theorem portNumber?_decimal (n : UInt8) : portNumber? ('p' :: decimal n.toNat) = some n :=
  byte?_decimal n

/-- The target of a port line is cut where it was joined. -/
theorem cutLast?_target (label : List Char) (n : UInt8) :
    cutLast? '.' (label ++ '.' :: 'p' :: decimal n.toNat) = some (label, 'p' :: decimal n.toNat) := by
  apply cutLast?_append
  intro h
  rcases List.mem_cons.mp h with h | h
  · exact absurd h (by decide)
  · exact not_mem_decimal (by decide) _ h

theorem target_solid {label : List Char} (h : Solid label) (n : UInt8) :
    Solid (label ++ '.' :: 'p' :: decimal n.toNat) := by
  refine h.append fun c hc => ?_
  rcases List.mem_cons.mp hc with rfl | hc
  · decide
  · rcases List.mem_cons.mp hc with rfl | hc
    · decide
    · exact decimal_solid _ c hc

theorem delayDigits_written (n : Nat) : delayDigits (decimal n ++ ['m', 's']) = decimal n := by
  have hlower : lower (decimal n ++ ['m', 's']) = decimal n ++ ['m', 's'] := by
    rw [lower_append, lower_decimal]
    rfl
  have hsuffix : "ms".toList.isSuffixOf (decimal n ++ ['m', 's']) = true :=
    List.isSuffixOf_iff_suffix.mpr ⟨decimal n, rfl⟩
  have hdrop : (decimal n ++ ['m', 's']).dropLast.dropLast = decimal n := by
    simp
  simp only [delayDigits, hlower, hsuffix, if_true, hdrop]
  exact (decimal_solid n).trimmed.trim_eq

end Context

theorem Sequence.target_eq (label : String) (n : UInt8) :
    target label n =
      Opcode.port.name.toList ++ ' ' :: (label.toList ++ '.' :: 'p' :: decimal n.toNat) := by
  show "port ".toList ++ label.toList ++ ".p".toList ++ decimal n.toNat = _
  simp [Opcode.name]

/-- The line of a block: it holds no line feed, `stepLines` writes it in front of the
lines of the steps that follow, and it is read as the block. -/
structure WrittenBy (as : Aliases) (block : List Step) (l : List Char) : Prop where
  oneLine : '\n' ∉ l
  lines : ∀ rest, Sequence.stepLines (block ++ rest) = l :: Sequence.stepLines rest
  read : ∀ c : Context, c.aliases = as → c.inMain = true → c.line l = .ok (c, block)

/-- A line made of an opcode and a text that it accepts. -/
theorem WrittenBy.of_instruction {as : Aliases} {block : List Step} {l rest : List Char} (o : Opcode)
    (htext : l = o.name.toList ++ ' ' :: rest) (htrimmed : Trimmed rest) (hne : rest ≠ [])
    (hline : '\n' ∉ rest)
    (hlines : ∀ more, Sequence.stepLines (block ++ more) = l :: Sequence.stepLines more)
    (hread : ∀ c : Context, c.aliases = as → c.inMain = true → c.Accepts rest c block o) :
    WrittenBy as block l := by
  refine ⟨?_, hlines, fun c hc hmain => ?_⟩
  · rw [htext]
    exact newline_not_mem_join (o.name_solid.not_mem (by decide)) hline
  · rw [htext, c.line_instruction o htrimmed hne]
    exact Context.instruction_eq_ok_iff.mpr (hread c hc hmain)

/-- Every block has a line. -/
theorem Block.written {as : Aliases} (hd : ∀ e ∈ as.entries, Declarable e.1 e.2)
    {block : List Step} (h : Block as block) : ∃ l, WrittenBy as block l := by
  have hlabel : ∀ {label b}, as.get? label = some b → Solid label.toList ∧ label.toList ≠ [] :=
    fun hb => ⟨(hd _ (Aliases.mem_of_get? hb)).label_solid, (hd _ (Aliases.mem_of_get? hb)).label_ne⟩
  cases h with
  | @port label b n hb hn =>
    have hsolid := Context.target_solid (hlabel hb).1 n
    refine ⟨_, .of_instruction .port (Sequence.target_eq label n) hsolid.trimmed (by simp)
      (hsolid.not_mem (by decide)) (fun _ => rfl) fun c hc hmain => ⟨hmain, rfl, ?_⟩⟩
    · refine Context.portSteps_eq_ok_iff.mpr ⟨_, label.toList, _, b, n, Context.cutLast?_target _ n,
        ?_, Context.portNumber?_decimal n, hn, .inl ⟨words_of_solid hsolid (by simp), ?_⟩⟩
      · rw [String.ofList_toList, hc]
        exact hb
      · rw [String.ofList_toList]
  | @fastPort label b mode n hb hn hs =>
    have hsolid := Context.target_solid (hlabel hb).1 n
    have htrimmed : Trimmed (label.toList ++ '.' :: 'p' :: decimal n.toNat ++ ' ' :: mode.name.toList) :=
      hsolid.trimmed.join mode.name_solid.trimmed (by simp) mode.name_ne_nil [' ']
    have htext : Sequence.target label n ++ ' ' :: mode.name.toList = Opcode.port.name.toList ++
        ' ' :: (label.toList ++ '.' :: 'p' :: decimal n.toNat ++ ' ' :: mode.name.toList) := by
      simp [Sequence.target_eq]
    refine ⟨_, .of_instruction .port htext htrimmed (by simp) ?_ (fun _ => rfl)
      fun c hc hmain => ⟨hmain, rfl, ?_⟩⟩
    · exact newline_not_mem_join (hsolid.not_mem (by decide)) (mode.name_solid.not_mem (by decide))
    · refine Context.portSteps_eq_ok_iff.mpr ⟨_, label.toList, _, b, n, Context.cutLast?_target _ n,
        ?_, Context.portNumber?_decimal n, hn, .inr ⟨_, mode, ?_, mode.ofWord?_name, hs, ?_⟩⟩
      · rw [String.ofList_toList, hc]
        exact hb
      · rw [words_append hsolid (by simp) (by decide), words_of_solid mode.name_solid mode.name_ne_nil]
      · rw [String.ofList_toList]
  | delay ms =>
    have hsolid : Solid (decimal ms.toNat ++ ['m', 's']) :=
      (decimal_solid _).append (by decide)
    have htext : "delay ".toList ++ decimal ms.toNat ++ "ms".toList =
        Opcode.delay.name.toList ++ ' ' :: (decimal ms.toNat ++ ['m', 's']) := by
      simp [Opcode.name]
    refine ⟨_, .of_instruction .delay htext hsolid.trimmed (by simp) (hsolid.not_mem (by decide))
      (fun _ => rfl) fun c hc hmain => ⟨hmain, rfl, ?_⟩⟩
    refine Context.delaySteps_eq_ok_iff.mpr ⟨ms, ?_, rfl⟩
    rw [Context.delayDigits_written, word64?_decimal]
  | @read label b p hb =>
    obtain ⟨hsolid, hne⟩ := hlabel hb
    have htrimmed : Trimmed (label.toList ++ ' ' :: p.name.toList) :=
      hsolid.trimmed.join p.name_solid.trimmed hne p.name_ne_nil [' ']
    have htext : "read ".toList ++ label.toList ++ ' ' :: p.name.toList =
        Opcode.read.name.toList ++ ' ' :: (label.toList ++ ' ' :: p.name.toList) := by
      simp [Opcode.name]
    refine ⟨_, .of_instruction .read htext htrimmed (by simp) ?_ (fun _ => rfl)
      fun c hc hmain => ⟨hmain, rfl, ?_⟩⟩
    · exact newline_not_mem_join (hsolid.not_mem (by decide)) (p.name_solid.not_mem (by decide))
    · refine Context.readSteps_eq_ok_iff.mpr ⟨label.toList, p.name.toList, b, p, ?_, ?_,
        p.ofWord?_name, ?_⟩
      · rw [words_append hsolid hne (by decide), words_of_solid p.name_solid p.name_ne_nil]
      · rw [String.ofList_toList, hc]
        exact hb
      · rw [String.ofList_toList]
  | @cycles count hne =>
    have hsolid := decimal_solid count.toNat
    have htext : "repeat ".toList ++ decimal count.toNat =
        Opcode.cycles.name.toList ++ ' ' :: decimal count.toNat := by
      simp [Opcode.name]
    refine ⟨_, .of_instruction .cycles htext hsolid.trimmed (decimal_ne_nil _)
      (hsolid.not_mem (by decide)) (fun _ => rfl) fun c hc hmain => ⟨rfl, ?_⟩⟩
    exact Context.cycleSteps_eq_ok_iff.mpr
      ⟨_, count, words_of_solid hsolid (decimal_ne_nil _), word32?_decimal count, hne, rfl⟩
  | @serial payload action hne htrimmed hline =>
    have hall : Trimmed (action.name.toList ++ ' ' :: payload.toList) :=
      action.name_solid.trimmed.join htrimmed action.name_ne_nil hne [' ']
    have hsplit : splitFirst (action.name.toList ++ ' ' :: payload.toList) =
        (action.name.toList, payload.toList) := by
      rw [splitFirst_append action.name_solid (by decide), htrimmed.trim_eq]
    have htext : "serial ".toList ++ action.name.toList ++ ' ' :: payload.toList =
        Opcode.serial.name.toList ++ ' ' :: (action.name.toList ++ ' ' :: payload.toList) := by
      simp [Opcode.name]
    refine ⟨_, .of_instruction .serial htext hall (by simp) ?_ (fun _ => rfl)
      fun c hc hmain => ⟨hmain, rfl, ?_⟩⟩
    · exact newline_not_mem_join (action.name_solid.not_mem (by decide)) hline
    · refine Context.serialSteps_eq_ok_iff.mpr ⟨action, ?_, ?_, ?_⟩
      · rw [hsplit, String.ofList_toList, action.ofName?_name]
      · rw [hsplit]
        exact hne
      · rw [hsplit, String.ofList_toList]
  | finish =>
    refine ⟨Opcode.finish.name.toList, ⟨Opcode.finish.name_solid.not_mem (by decide), fun _ => rfl,
      fun c _ _ => ?_⟩⟩
    rw [c.line_opcode]
    exact Context.instruction_eq_ok_iff.mpr ⟨rfl, rfl⟩

/-! ### Declarations that are written -/

/-- The two quoted words of a declaration. -/
def Binding.quoted (b : Binding) : List Char :=
  '"' :: b.id.text.toList ++ '"' :: ' ' :: ('"' :: b.model.name.toList ++ ['"'])

/-- A declaration without its opcode. -/
def Binding.declared (label : String) (b : Binding) : List Char :=
  label.toList ++ ([' ', '=', ' '] ++ b.quoted)

theorem Sequence.declaration_eq (label : String) (b : Binding) :
    declaration label b = Opcode.switch.name.toList ++ ' ' :: b.declared label := by
  show "switch ".toList ++ label.toList ++ " = \"".toList ++ b.id.text.toList ++ "\" \"".toList ++
    b.model.name.toList ++ ['"'] = _
  simp [Opcode.name, Binding.declared, Binding.quoted]

theorem Binding.quoted_trimmed (b : Binding) : Trimmed b.quoted := by
  have hquote : Trimmed ['"'] := Solid.trimmed (by decide)
  have heq : b.quoted = ['"'] ++
      ((b.id.text.toList ++ '"' :: ' ' :: '"' :: b.model.name.toList) ++ ['"']) := by
    simp [quoted]
  rw [heq]
  exact hquote.join hquote (by simp) (by simp) _

theorem Declarable.declared_trimmed {label : String} {b : Binding} (h : Declarable label b) :
    Trimmed (b.declared label) :=
  h.label_solid.trimmed.join b.quoted_trimmed h.label_ne (by simp [Binding.quoted]) _

theorem Declarable.declared_oneLine {label : String} {b : Binding} (h : Declarable label b) :
    '\n' ∉ b.declared label := by
  have hlabel : '\n' ∉ label.toList := h.label_solid.not_mem (by decide)
  simp [Binding.declared, Binding.quoted, hlabel, h.id_oneLine, b.model.name_oneLine]

/-- A written declaration declares what it was written for. -/
theorem Declarable.declaration_eq_ok {label : String} {b : Binding} (h : Declarable label b)
    {c : Context} {as : Aliases} (has : c.aliases.declare? label b = some as) :
    c.declaration (b.declared label) = .ok as := by
  have hcut : cutFirst? '=' (b.declared label) = some (label.toList ++ [' '], ' ' :: b.quoted) := by
    have hnot : '=' ∉ label.toList ++ [' '] := by simp [h.label_plain]
    simpa [Binding.declared] using cutFirst?_append (' ' :: b.quoted) hnot
  have hwords : quotedWords (' ' :: b.quoted) = [b.id.text.toList, b.model.name.toList] := by
    rw [quotedWords_blank_cons (by decide), Binding.quoted,
      quotedWords_run_blank h.id_unquoted (by decide), quotedWords_run b.model.name_unquoted]
  have hid : SwitchId.ofText (.ofList b.id.text.toList) = b.id := by
    rw [SwitchId.ofText, String.toList_ofList, h.id_trimmed.trim_eq, String.ofList_toList]
  have hlabel : trim (label.toList ++ [' ']) = label.toList := trim_append_space h.label_solid
  refine Context.declaration_eq_ok_iff.mpr
    ⟨_, _, _, _, b.model, hcut, hwords, ?_, ?_, ?_, ?_, ?_⟩
  · rw [hlabel]
    exact h.label_ne
  · rw [hlabel]
    exact h.label_solid
  · rw [String.ofList_toList, b.model.ofName?_name]
  · rw [hid]
    exact fun he => h.id_ne (by rw [he]; rfl)
  · rw [hlabel, String.ofList_toList, hid]
    exact has

theorem Declarable.line_declaration {label : String} {b : Binding} (h : Declarable label b)
    {c : Context} {as : Aliases} (has : c.aliases.declare? label b = some as) :
    c.line (Sequence.declaration label b) = .ok ({ c with aliases := as }, []) := by
  rw [Sequence.declaration_eq, Context.line_instruction c .switch h.declared_trimmed
    (by simp [Binding.declared])]
  exact Context.instruction_eq_ok_iff.mpr ⟨as, h.declaration_eq_ok has, rfl, rfl⟩

/-! ### The whole script -/

namespace Reading

/-- The declarations are read one by one, behind those that stand already. -/
theorem ofLines_declarations (es : List (String × Binding)) (hd : ∀ e ∈ es, Declarable e.1 e.2)
    (c : Context) (as : Aliases) (has : as.entries = c.aliases.entries ++ es) (n : Nat)
    (rest : List (List Char)) :
    ofLines c n (es.map (fun e => Sequence.declaration e.1 e.2) ++ rest) =
      ofLines { c with aliases := as } (n + es.length) rest := by
  induction es generalizing c n with
  | nil =>
    have : as = c.aliases := Aliases.ext (by simpa using has)
    rw [this]
    rfl
  | cons e es ih =>
    have hnodup := as.distinct
    rw [has, List.map_append, List.map_cons] at hnodup
    have hfresh : e.1 ∉ c.aliases.entries.map (·.1) := fun hmem =>
      (List.nodup_append.mp hnodup).2.2 _ hmem _ (List.mem_cons_self ..) rfl
    obtain ⟨bs, hbs⟩ : ∃ bs, c.aliases.declare? e.1 e.2 = some bs := by
      unfold Aliases.declare?
      rw [dif_pos ((c.aliases.get?_eq_none_iff e.1).mpr hfresh)]
      exact ⟨_, rfl⟩
    have hentries := (Aliases.declare?_eq_some_iff.mp hbs).2
    have hline := (hd e (List.mem_cons_self ..)).line_declaration hbs
    rw [List.map_cons, List.cons_append, ofLines_cons hline,
      ih (fun f hf => hd f (List.mem_cons_of_mem e hf)) { c with aliases := bs }
        (by rw [has, hentries, List.append_assoc]; rfl)]
    rw [List.length_cons, show n + 1 + es.length = n + (es.length + 1) by omega]
    rfl

/-- The lines of blocks are read as the blocks. -/
theorem ofLines_stepLines {c : Context} (hmain : c.inMain = true) (hd : c.Declarables)
    {steps : List Step} (h : Blocks c.aliases steps) (n : Nat) :
    ofLines c n (Sequence.stepLines steps) = ⟨⟨steps, c.aliases⟩, []⟩ := by
  induction h generalizing n with
  | nil => rfl
  | cons hblock _ ih =>
    obtain ⟨l, hl⟩ := hblock.written hd
    rw [hl.lines, ofLines_cons (hl.read c rfl hmain), ih]

end Reading

theorem Blocks.stepLines_oneLine {as : Aliases} (hd : ∀ e ∈ as.entries, Declarable e.1 e.2)
    {steps : List Step} (h : Blocks as steps) : ∀ l ∈ Sequence.stepLines steps, '\n' ∉ l := by
  induction h with
  | nil => exact fun l hl => absurd hl List.not_mem_nil
  | cons hblock _ ih =>
    obtain ⟨m, hm⟩ := hblock.written hd
    intro l hl
    rw [hm.lines] at hl
    rcases List.mem_cons.mp hl with rfl | hl
    · exact hm.oneLine
    · exact ih l hl

/-- Writing a well-formed sequence joins its lines, which reading takes apart again. -/
theorem Sequence.WellFormed.lines_render {s : Sequence} (h : s.WellFormed) :
    lines s.render = s.aliases.entries.map (fun e => Sequence.declaration e.1 e.2) ++
      Opcode.main.name.toList :: Sequence.stepLines s.steps := by
  apply lines_unlines
  intro l hl
  rcases List.mem_append.mp hl with hl | hl
  · obtain ⟨e, he, rfl⟩ := List.mem_map.mp hl
    have hnot : '\n' ∉ Opcode.switch.name.toList := Opcode.switch.name_solid.not_mem (by decide)
    rw [Sequence.declaration_eq]
    simp [hnot, (h.declarable e he).declared_oneLine]
  · rcases List.mem_cons.mp hl with rfl | hl
    · exact Opcode.main.name_solid.not_mem (by decide)
    · exact h.blocks.stepLines_oneLine h.declarable l hl

/-- **A well-formed sequence is read back** from its canonical text, without a warning. -/
theorem Reading.ofText_render {s : Sequence} (h : s.WellFormed) :
    Reading.ofText s.render = ⟨s, []⟩ := by
  have hmain : { Context.start with aliases := s.aliases }.line Opcode.main.name.toList =
      .ok (⟨s.aliases, true⟩, []) := by
    rw [Context.line_opcode]
    rfl
  have hsteps := ofLines_stepLines (c := ⟨s.aliases, true⟩) rfl h.declarable h.blocks
    (1 + s.aliases.entries.length + 1)
  rw [Reading.ofText, h.lines_render,
    ofLines_declarations s.aliases.entries h.declarable .start s.aliases (by rfl),
    ofLines_cons hmain]
  rw [hsteps]
  rfl

/-- **Reading, writing and reading again is reading once**, whatever the script: the
sequence comes back with its steps, its aliases in their order and all that is read off
them, no line of the canonical text is warned of, and it is written the same again. -/
theorem Reading.ofText_render_ofText (text : List Char) :
    let s := (ofText text).sequence
    let again := ofText s.render
    again.sequence.steps = s.steps ∧ again.sequence.aliases.entries = s.aliases.entries ∧
      again.sequence.cycles = s.cycles ∧ again.sequence.required = s.required ∧
      again.sequence.isEnded = s.isEnded ∧ again.warnings = [] ∧ again.sequence.render = s.render := by
  intro s again
  have hagain : again = ⟨s, []⟩ := ofText_render (ofText_wellFormed text)
  rw [hagain]
  exact ⟨rfl, rfl, rfl, rfl, rfl, rfl, rfl⟩

end SwitchBench
