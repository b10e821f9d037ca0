/-! Places in a text, counted in bytes.

A character takes one to four bytes in UTF-8. A text can be cut behind so many bytes
only where a character ends. -/
namespace SwitchBench.Text

/-- The number of bytes of a text in UTF-8. -/
def byteLength : List Char → Nat
  | [] => 0
  | c :: rest => c.utf8Size + byteLength rest

/-- The first `n` bytes of a text and the rest. -/
def cutBytes? : Nat → List Char → Option (List Char × List Char)
  | 0, cs => some ([], cs)
  | _ + 1, [] => none
  | n + 1, c :: rest =>
    if c.utf8Size ≤ n + 1 then (cutBytes? (n + 1 - c.utf8Size) rest).map fun p => (c :: p.1, p.2)
    else none

/-- The bytes from `start` on and before `stop`. -/
def slice? (start stop : Nat) (cs : List Char) : Option (List Char) := do
  let (front, _) ← cutBytes? stop cs
  let (_, middle) ← cutBytes? start front
  return middle

end SwitchBench.Text
