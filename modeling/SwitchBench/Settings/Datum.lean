/-! What a source says of a setting, before anyone asks whether it fits. -/
namespace SwitchBench

inductive Datum where
  | text (s : String)
  | whole (n : Int)
  /-- No value, which is also what a number comes to that is not finite. -/
  | null
  /-- The names of the members of a table, each with whether its value is none. -/
  | table (members : List (String × Bool))
  /-- A truth value, a fraction, a point in time or a list: nothing that a setting could
  be. -/
  | other
deriving DecidableEq

namespace Datum

def text? : Datum → Option String
  | text s => some s
  | whole _ | null | table _ | other => none

/-- A number of milliseconds. -/
def word64? : Datum → Option UInt64
  | whole n => if 0 ≤ n ∧ n < 18446744073709551616 then some (.ofNat n.toNat) else none
  | text _ | null | table _ | other => none

/-- The name of one of a few values, given as a text or as the only member of a table
that has no value itself. -/
def choice? : Datum → Option String
  | text s => some s
  | table [(name, true)] => some name
  | whole _ | null | table _ | other => none

/-- What is said by two sources, the first above the second. A table leaves the members
of a table below it that it does not have itself; all else hides what is below. -/
def above : Datum → Datum → Datum
  | table ms, table ns => table (ms ++ ns.filter fun n => !(ms.any fun m => m.1 == n.1))
  | upper, _ => upper

end Datum

end SwitchBench
