import SwitchBench.Domain.Composition
import SwitchBench.Domain.Direction
import SwitchBench.Domain.Joining
import SwitchBench.Domain.Mapping
import SwitchBench.Domain.Punycode

/-! Names of domains in all scripts.

A name has labels with points between them. Its characters are replaced and composed
first, and then each label is looked at. A label that begins with `xn--` is written in
ASCII and stands for another one, which must need this: it holds more than ASCII, and
would itself be left as it is. -/
namespace SwitchBench.Domain

/-- How a label in ASCII begins that stands for another. -/
def asciiMark : List Char := "xn--".toList

/-- The characters that a label in ASCII may have behind its mark. -/
def asciiLimit : Nat := 2000

/-- The characters that a label of more than ASCII may have. -/
def labelLimit : Nat := 1000

def isAscii (cs : List Char) : Bool := cs.all fun c => c.toNat < 128

/-- Whether a label can stand by itself: it does not begin with a mark, its joiners are
in place, and it is not too long. -/
def isLabel (label : List Char) : Bool :=
  isAscii label || (!label.head?.any isMark && joinersFit [] label && label.length ≤ labelLimit)

/-- The label that a label stands for. -/
def label? (label : List Char) : Option (List Char) :=
  if asciiMark.isPrefixOf label then do
    let written := label.drop asciiMark.length
    if asciiLimit < written.length ∨ written.getLast? = some '-' then failure
    else
      let meant ← Punycode.decode? written
      if !isAscii meant && meant.all isSettled && composed meant == meant && isLabel meant &&
          !asciiMark.isPrefixOf meant then
        return meant
      else failure
  else if isLabel label then some label
  else none

/-- The name that a text stands for, in the characters of its script. None of the
characters that are refused may be in it once they are composed. -/
def name? (isRefused : Char → Bool) (text : List Char) : Option (List Char) := do
  let plain := composed (← mappedText? text)
  if plain.any isRefused then failure
  else
    let labels ← (plain.splitOn '.').mapM label?
    if labels.any runsRight && !(labels.all fun l => isOneWay (l.map direction)) then failure
    else return ['.'].intercalate labels

end SwitchBench.Domain
