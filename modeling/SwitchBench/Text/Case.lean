/-! Letter case.

Names are compared without regard to the case of ASCII letters; all other
characters stand for themselves, so `É` and `é` stay different. -/
namespace SwitchBench.Text

/-- With ASCII capitals replaced by small letters. -/
def lower (cs : List Char) : List Char := cs.map Char.toLower

@[simp] theorem length_lower (cs : List Char) : (lower cs).length = cs.length := by
  simp [lower]

theorem lower_append (a b : List Char) : lower (a ++ b) = lower a ++ lower b := by
  simp [lower]

end SwitchBench.Text
