import SwitchBench.Pattern.Sets

/-! Which texts are patterns.

A text is read from left to right, one item at a time, with the groups that are open on
a stack. Nothing is kept of the items but their heights, since a pattern may not be too
high. Repetitions are `?`, `*` and `+`. A count in braces is none: braces enclose the
fields themselves, so what they enclose cannot have closing braces of its own. -/
namespace SwitchBench.Pattern
open Text

/-- No pattern is higher. -/
def heightLimit : Nat := 250

/-- Something to match: its height, and whether it can be repeated. -/
structure Item where
  height : Nat
  isRepeatable : Bool
deriving DecidableEq

/-- A group that is open: the modes, the alternatives and the items in front of it. -/
structure Frame where
  modes : Modes
  alternatives : List Nat
  items : List Item
deriving DecidableEq

/-- What is read so far: inside the innermost group the heights of the finished
alternatives and the items of the current one, the latest first. -/
structure Progress where
  modes : Modes
  alternatives : List Nat
  items : List Item
  outer : List Frame
  names : List (List Char)
deriving DecidableEq

namespace Progress

def start : Progress := ⟨.standard, [], [], [], []⟩

/-- The height of the innermost group as it stands. -/
def height (p : Progress) : Nat :=
  heightOf (heightOf (p.items.map Item.height) :: p.alternatives)

def add (p : Progress) (height : Nat) : Progress :=
  { p with items := ⟨height, true⟩ :: p.items }

/-- Repeats the latest item. -/
def repeat? (p : Progress) : Option Progress :=
  match p.items with
  | item :: before =>
    if item.isRepeatable then some { p with items := ⟨item.height + 1, true⟩ :: before } else none
  | [] => none

def alternative (p : Progress) : Progress :=
  { p with alternatives := heightOf (p.items.map Item.height) :: p.alternatives, items := [] }

def openGroup (p : Progress) (modes : Modes) : Progress :=
  { p with modes, alternatives := [], items := [], outer := ⟨p.modes, p.alternatives, p.items⟩ :: p.outer }

/-- Closes the innermost group, and with it the modes that were set in it. -/
def closeGroup? (p : Progress) : Option Progress :=
  match p.outer with
  | f :: outer =>
    some ⟨f.modes, f.alternatives, ⟨1 + p.height, true⟩ :: f.items, outer, p.names⟩
  | [] => none

end Progress

/-- Whether a word can name a group. -/
def isGroupName (name : List Char) : Bool :=
  match name with
  | [] => false
  | c :: rest => (c == '_' || isAlphabetic c) &&
      rest.all fun c => isAlphanumeric c || c == '_' || c == '.' || c == '[' || c == ']'

/-- Opens a group with a name, from behind the mark in front of the name. No two groups
have the same name. -/
def openNamed? (p : Progress) (cs : List Char) : Option (Progress × List Char) :=
  (cutFirst? '>' cs).bind fun (name, rest) =>
    if isGroupName name && !p.names.contains name then
      some ({ p.openGroup p.modes with names := name :: p.names }, rest)
    else none

/-- Reads on from behind an opening parenthesis. Behind a question mark a group has a
name or modes; modes without a group hold to the end of the group around them. -/
def open? (p : Progress) (cs : List Char) : Option (Progress × List Char) :=
  match p.modes.skip cs with
  | '?' :: 'P' :: '<' :: rest | '?' :: '<' :: rest => openNamed? p rest
  | '?' :: rest =>
    let isEnd (c : Char) : Bool := c == ':' || c == ')'
    let marks := rest.takeWhile (!isEnd ·)
    (p.modes.change? marks).bind fun modes =>
      match rest.dropWhile (!isEnd ·) with
      | ':' :: rest => some (p.openGroup modes, rest)
      | ')' :: rest =>
        if marks = [] then none else some ({ p with modes, items := ⟨0, false⟩ :: p.items }, rest)
      | _ => none
  | rest => some (p.openGroup p.modes, rest)

/-- Reads one item. A question mark behind a repetition belongs to it. -/
def step? (p : Progress) (n : Nat) : List Char → Option (Progress × List Char)
  | [] => none
  | '(' :: rest => open? p rest
  | ')' :: rest => p.closeGroup?.map (·, rest)
  | '|' :: rest => some (p.alternative, rest)
  | '[' :: rest => (set? p.modes n rest).map fun s => (p.add s.1, s.2)
  | '\x7b' :: _ => none
  | '?' :: rest | '*' :: rest | '+' :: rest =>
    p.repeat?.map (·, match rest with
      | '?' :: rest => rest
      | rest => rest)
  | '^' :: rest | '$' :: rest => some (p.add 0, rest)
  | '.' :: rest => if p.modes.unicode then some (p.add 0, rest) else none
  | '\\' :: rest => (Atom.escaped? p.modes rest).bind fun (a, rest) =>
      if a.fits p.modes then some (p.add 0, rest) else none
  | c :: rest => if p.modes.admits false false c then some (p.add 0, rest) else none

/-- Whether the rest of a text, in at most `n` steps, ends a pattern. -/
def ends (p : Progress) : Nat → List Char → Bool
  | 0, _ => false
  | n + 1, cs =>
    match p.modes.skip cs with
    | [] => p.outer.isEmpty && p.height ≤ heightLimit
    | rest =>
      match step? p (2 * n) rest with
      | some (p, rest) => ends p n rest
      | none => false

def isPattern (cs : List Char) : Bool := ends .start (cs.length + 1) cs

end SwitchBench.Pattern
