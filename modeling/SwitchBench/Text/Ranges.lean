import SwitchBench.Text.Blank
import SwitchBench.Text.Cut
import SwitchBench.Text.Escape

/-! Tables of characters.

A row of a table gives one value to a range of code points. The rows stand in ascending
order and no two of them overlap, so the row of a character is found by halving.

A table is written as words, one for each row: the first code point and behind a dash
the last, in hexadecimal digits, and behind a colon the value. A row for a single code
point has no dash, and a table without values has no colons. -/
namespace SwitchBench.Text

/-- The number that hexadecimal digits write. -/
def hexNumber? (cs : List Char) : Option Nat :=
  if cs = [] then none else cs.foldlM (fun n c => (hexDigit? c).map (n * 16 + ·)) 0

structure RangeRow (α : Type) where
  first : Nat
  last : Nat
  value : α

structure RangeTable (α : Type) where
  rows : Array (RangeRow α)

namespace RangeTable
variable {α : Type}

/-- Of the rows from `low` on and before `high` the last one that does not begin behind
the code point `n`. If all of them do, it is the row at `low`. -/
def search (rows : Array (RangeRow α)) (n low high : Nat) : Option (RangeRow α) :=
  if high ≤ low + 1 then rows[low]?
  else
    let middle := (low + high) / 2
    if rows[middle]?.any (·.first ≤ n) then search rows n middle high else search rows n low middle
termination_by high - low

/-- The row that a character is in. -/
def row? (t : RangeTable α) (c : Char) : Option (RangeRow α) :=
  (search t.rows c.toNat 0 t.rows.size).filter fun r => r.first ≤ c.toNat && c.toNat ≤ r.last

def value? (t : RangeTable α) (c : Char) : Option α := (t.row? c).map (·.value)

def contains (t : RangeTable α) (c : Char) : Bool := (t.row? c).isSome

/-- The row that a word writes; `read?` reads values. -/
def rowOfWord? (read? : List Char → Option α) (word : List Char) : Option (RangeRow α) := do
  let (range, value) := (cutFirst? ':' word).getD (word, [])
  let (first, last) := (cutFirst? '-' range).getD (range, range)
  return ⟨← hexNumber? first, ← hexNumber? last, ← read? value⟩

/-- The table that a text writes. -/
def ofText (read? : List Char → Option α) (text : String) : RangeTable α :=
  ⟨((words text.toList).filterMap (rowOfWord? read?)).toArray⟩

end RangeTable

end SwitchBench.Text
