import SwitchBench.Text.Blank

/-! Words that may hold blanks.

A double quote begins or ends a quoted run. Inside such a run blanks are part of
the word; elsewhere they end it. The quotes themselves are dropped, so `""` is an
empty word. -/
namespace SwitchBench.Text

/-- The words from a place on: `word` is the word begun there, latest first, and
`quoted` says whether the place is inside a quoted run. -/
def quotedWordsFrom (word : Option (List Char)) (quoted : Bool) : List Char → List (List Char)
  | [] => word.toList.map List.reverse
  | c :: rest =>
    if c = '"' then quotedWordsFrom (some (word.getD [])) (!quoted) rest
    else if isBlank c && !quoted then
      word.toList.map List.reverse ++ quotedWordsFrom none false rest
    else quotedWordsFrom (some (c :: word.getD [])) quoted rest

/-- The words of a text. -/
def quotedWords (cs : List Char) : List (List Char) := quotedWordsFrom none false cs

end SwitchBench.Text
