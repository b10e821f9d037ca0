import SwitchBench.Proofs.Text.Words
import SwitchBench.Switch.Model

/-! The names that switches go by.

Names of models, speeds and parameters stand in lines of scripts and in fields of
requests: they are words without blanks, and a model's name needs no quotes. -/
namespace SwitchBench

open Text

theorem Speed.name_solid (m : Speed) : Solid m.name.toList := by cases m <;> decide

theorem Speed.name_ne_nil (m : Speed) : m.name.toList ≠ [] := by cases m <;> decide

theorem Parameter.name_solid (p : Parameter) : Solid p.name.toList := by cases p <;> decide

theorem Parameter.name_ne_nil (p : Parameter) : p.name.toList ≠ [] := by cases p <;> decide

theorem Model.name_unquoted (m : Model) : '"' ∉ m.name.toList := by cases m <;> decide

theorem Model.name_oneLine (m : Model) : '\n' ∉ m.name.toList := by cases m <;> decide

end SwitchBench
