import SwitchBench.Script.Step
import SwitchBench.Switch.Roster
import SwitchBench.Text.Lines
import SwitchBench.Text.Numeral

/-! Batches and their canonical text.

A sequence is the steps of a batch and the aliases they use. How often it runs,
which switches it takes and whether it was ended are read off the steps. `render`
writes a sequence as a script: the declarations of its aliases, then `main:`, then
a line for each step or group of steps. -/
namespace SwitchBench

/-- Aliases in the order of their declaration, each bound once. -/
structure Aliases where
  entries : List (String × Binding)
  distinct : (entries.map (·.1)).Nodup
deriving DecidableEq

namespace Aliases

def empty : Aliases := ⟨[], .nil⟩

def get? (as : Aliases) (label : String) : Option Binding :=
  (as.entries.find? fun e => e.1 == label).map (·.2)

theorem get?_eq_none_iff (as : Aliases) (label : String) :
    as.get? label = none ↔ label ∉ as.entries.map (·.1) := by
  simp only [get?, Option.map_eq_none_iff, List.find?_eq_none, List.mem_map, not_exists, not_and,
    beq_iff_eq]

/-- Binds an alias, unless it is bound already. -/
def declare? (as : Aliases) (label : String) (b : Binding) : Option Aliases :=
  if h : as.get? label = none then
    some ⟨as.entries ++ [(label, b)], by
      have hfresh := (as.get?_eq_none_iff label).mp h
      simp only [List.map_append, List.map_cons, List.map_nil]
      refine List.nodup_append.mpr ⟨as.distinct, by simp, fun x hx y hy => ?_⟩
      rw [List.mem_singleton.mp hy]
      exact fun he => hfresh (he ▸ hx)⟩
  else none

end Aliases

structure Sequence where
  steps : List Step
  aliases : Aliases
deriving DecidableEq

namespace Sequence

/-- How often the batch runs: as the latest mark says, otherwise once. -/
def cycles (s : Sequence) : UInt32 :=
  s.steps.foldl (fun count step => step.cycles?.getD count) 1

/-- The identifiers behind the aliases that the steps use. -/
def required (s : Sequence) : Roster Unit :=
  .ofList ((s.steps.filterMap fun step => step.alias?.bind s.aliases.get?).map fun b => (b.id, ()))

/-- The switches that the batch takes, in ascending order. -/
def requiredIds (s : Sequence) : List SwitchId := s.required.ids

/-- Whether the batch was ended explicitly. -/
def isEnded (s : Sequence) : Bool := s.steps.contains .finish

/-! ### The canonical text -/

def declaration (label : String) (b : Binding) : List Char :=
  "switch ".toList ++ label.toList ++ " = \"".toList ++ b.id.text.toList ++ "\" \"".toList ++
    b.model.name.toList ++ ['"']

def target (label : String) (port : UInt8) : List Char :=
  "port ".toList ++ label.toList ++ ".p".toList ++ Text.decimal port.toNat

/-- The lines of the steps. A selection is written with the port that it is for;
what belongs to no port line is written as a comment. -/
def stepLines : List Step → List (List Char)
  | [] => []
  | .select label :: .speed mode :: .port port :: rest =>
    (target label port ++ ' ' :: mode.name.toList) :: stepLines rest
  | .select label :: .port port :: rest => target label port :: stepLines rest
  | .select label :: .speed _ :: rest => ("# switch ".toList ++ label.toList) :: stepLines rest
  | .select label :: rest => ("# switch ".toList ++ label.toList) :: stepLines rest
  | .speed mode :: rest => ("# speed ".toList ++ mode.name.toList) :: stepLines rest
  | .port port :: rest => ("# port p".toList ++ Text.decimal port.toNat) :: stepLines rest
  | .delay ms :: rest => ("delay ".toList ++ Text.decimal ms.toNat ++ "ms".toList) :: stepLines rest
  | .read label p :: rest =>
    ("read ".toList ++ label.toList ++ ' ' :: p.name.toList) :: stepLines rest
  | .cycles count :: rest => ("repeat ".toList ++ Text.decimal count.toNat) :: stepLines rest
  | .serial action payload :: rest =>
    ("serial ".toList ++ action.name.toList ++ ' ' :: payload.toList) :: stepLines rest
  | .finish :: rest => "end".toList :: stepLines rest

/-- The script of a sequence. -/
def render (s : Sequence) : List Char :=
  Text.unlines (s.aliases.entries.map (fun e => declaration e.1 e.2) ++ "main:".toList ::
    stepLines s.steps)

end Sequence

end SwitchBench
