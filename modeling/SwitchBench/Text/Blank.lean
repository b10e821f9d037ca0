/-! White space in text.

A character is blank when Unicode gives it the property `White_Space`: 25 code
points, of which six are ASCII. Trimming and splitting into words go by this set
everywhere, so a no-break space or an ideographic space separates words just as a
space does. -/
namespace SwitchBench.Text

/-- Unicode `White_Space`. -/
def isBlank (c : Char) : Bool :=
  let n := c.toNat
  if n < 128 then (9 ≤ n && n ≤ 13) || n == 32
  else n == 0x85 || n == 0xA0 || n == 0x1680 || (0x2000 ≤ n && n ≤ 0x200A) ||
    n == 0x2028 || n == 0x2029 || n == 0x202F || n == 0x205F || n == 0x3000

def trimStart (cs : List Char) : List Char := cs.dropWhile isBlank

def trimEnd (cs : List Char) : List Char := (cs.reverse.dropWhile isBlank).reverse

/-- Without the blanks at either end. -/
def trim (cs : List Char) : List Char := trimEnd (trimStart cs)

/-- The runs of non-blank characters, in order. -/
def words (cs : List Char) : List (List Char) :=
  (cs.splitOnP isBlank).filter fun w => !w.isEmpty

/-- The text before the first blank, and what follows that blank with blanks
trimmed from both ends. A text without blanks has nothing after it. -/
def splitFirst (cs : List Char) : List Char × List Char :=
  (cs.takeWhile fun c => !isBlank c, trim ((cs.dropWhile fun c => !isBlank c).drop 1))

end SwitchBench.Text
