/-! Lines of a text.

A line ends at a line feed, which is not part of it. A carriage return in front of
the line feed stays with the line; readers that trim their lines do not see it. -/
namespace SwitchBench.Text

/-- The lines of a text. A final line feed ends the last line and opens no other. -/
def lines (cs : List Char) : List (List Char) :=
  let pieces := cs.splitOn '\n'
  if pieces.getLast? = some [] then pieces.dropLast else pieces

/-- Lines joined, each with a line feed after it. -/
def unlines (ls : List (List Char)) : List Char := ls.flatMap fun l => l ++ ['\n']

end SwitchBench.Text
