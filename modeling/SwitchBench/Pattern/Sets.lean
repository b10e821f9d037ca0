import SwitchBench.Pattern.Modes

/-! Sets of characters in brackets.

A set lists characters, ranges of them, named classes of ASCII and further sets. Two
signs of one kind, `&&`, `--` or `~~`, make a set of the two on their sides. Dashes and
one closing bracket stand for themselves at the start of a set, so no set is empty for
want of anything between its brackets.

Reading gives the height of a set: how many things stand inside one another in it. -/
namespace SwitchBench.Pattern
open Text

def classNames : List String :=
  ["alnum", "alpha", "ascii", "blank", "cntrl", "digit", "graph", "lower", "print", "punct", "space",
    "upper", "word", "xdigit"]

/-- A named class behind its opening bracket, as whether it is negated, and what follows
it. -/
def namedClass? (cs : List Char) : Option (Bool × List Char) :=
  match cs with
  | ':' :: rest =>
    let (negated, rest) := match rest with
      | '^' :: rest => (true, rest)
      | rest => (false, rest)
    match cutFirst? ':' rest with
    | some (name, ']' :: rest) =>
      if classNames.any fun n => n.toList == name then some (negated, rest) else none
    | _ => none
  | _ => none

/-- A character, or what a backslash makes. -/
def setAtom? (m : Modes) : List Char → Option (Atom × List Char)
  | [] => none
  | '\\' :: rest => Atom.escaped? m rest
  | c :: rest => some (.literal c false, rest)

/-- What follows a character, a class or a range. Both ends of a range are characters,
and they stand in order. -/
def afterRange? (m : Modes) (cs : List Char) : Option (List Char) := do
  let (a, rest) ← setAtom? m cs
  let rest := m.skip rest
  let alone := if a.fitsSet m then some rest else none
  match rest with
  | '-' :: more =>
    if m.peek? more = some ']' ∨ m.peek? more = some '-' then alone
    else
      let (b, rest) ← setAtom? m (m.skip more)
      match a, b with
      | .literal x _, .literal y _ =>
        if x ≤ y ∧ a.fitsSet m ∧ b.fitsSet m then some rest else none
      | _, _ => none
  | _ => alone

/-- The height of several things side by side, where those of each are given. -/
def heightOf : List Nat → Nat
  | [] => 0
  | [h] => h
  | hs => 1 + hs.foldl max 0

/-- The height of a set of two, or of one where nothing stands on the left. -/
def heightBeside (left : Option Nat) (right : Nat) : Nat :=
  match left with
  | some left => 1 + max left right
  | none => right

mutual

/-- The height of a set and what follows it, from behind its opening bracket on, in at
most `n` steps. Among bytes no set may be negated. -/
def set? (m : Modes) : Nat → List Char → Option (Nat × List Char)
  | 0, _ => none
  | n + 1, cs =>
    match m.skip cs with
    | '^' :: rest => if m.unicode then items? m n true none [] rest else none
    | rest => items? m n true none [] rest

/-- The height of a set and what follows it, where items of the heights `items` are
already read and stand on the right of `left`; `opening` as long as a dash stands for
itself. -/
def items? (m : Modes) : Nat → Bool → Option Nat → List Nat → List Char → Option (Nat × List Char)
  | 0, _, _, _, _ => none
  | n + 1, opening, left, items, cs =>
    match opening, items, m.skip cs with
    | _, _, [] => none
    | true, _, '-' :: rest =>
      if m.admits true false '-' then items? m n true left (0 :: items) rest else none
    | true, [], ']' :: rest =>
      if m.admits true false ']' then items? m n false left [0] rest else none
    | _, _, ']' :: rest => some (1 + heightBeside left (heightOf items), rest)
    | _, _, '[' :: rest =>
      match namedClass? rest with
      | some (negated, rest) =>
        if (if m.unicode then !m.caseless else !negated) then items? m n false left (0 :: items) rest
        else none
      | none => (set? m n rest).bind fun p => items? m n false left (p.1 :: items) p.2
    | _, _, '&' :: '&' :: rest | _, _, '-' :: '-' :: rest | _, _, '~' :: '~' :: rest =>
      items? m n false (some (heightBeside left (heightOf items))) [] rest
    | _, _, rest => (afterRange? m rest).bind fun rest => items? m n false left (0 :: items) rest

end

end SwitchBench.Pattern
