import SwitchBench.Text.Blank

/-! Identifiers of switches, such as `COM7` or `/dev/ttyACM0`.

Identifiers compare by code point, which is the order of their UTF-8 bytes. -/
namespace SwitchBench

structure SwitchId where
  text : String
deriving DecidableEq

namespace SwitchId

/-- Blanks at either end are not part of an identifier. -/
def ofText (s : String) : SwitchId := ⟨String.ofList (Text.trim s.toList)⟩

instance : LT SwitchId := ⟨fun a b => a.text < b.text⟩

instance (a b : SwitchId) : Decidable (a < b) := inferInstanceAs (Decidable (a.text < b.text))

theorem lt_trans {a b c : SwitchId} (hab : a < b) (hbc : b < c) : a < c := String.lt_trans hab hbc

theorem lt_irrefl (a : SwitchId) : ¬ a < a := String.lt_irrefl a.text

theorem lt_of_not_lt {a b : SwitchId} (h : ¬ a < b) (hne : a ≠ b) : b < a := by
  have hle : b.text ≤ a.text := String.not_lt.mp h
  have hne' : b.text ≠ a.text := fun he => hne (by cases a; cases b; simp_all)
  have hlt : b.text < a.text := Std.lt_of_le_of_ne hle hne'
  exact hlt

end SwitchId

end SwitchBench
