import SwitchBench.Text.Alphanumeric
import SwitchBench.Text.Blank

/-! Modes: how a pattern is read.

A pattern is a regular expression for the value of a field. Its modes are letters that
a group turns on, or turns off behind a dash. Three of them bear on what a pattern may
hold: `i` sets letter case aside, `u` makes it a pattern of characters and not of bytes,
and `x` lets blanks and comments stand anywhere.

Patterns come without tables of characters. So what would need one, such as letter case
or a class of digits, has no meaning among characters, but has one among bytes, where
ASCII is all there is. Among bytes in turn nothing may match half a character. -/
namespace SwitchBench.Pattern
open Text

structure Modes where
  caseless : Bool
  unicode : Bool
  spaced : Bool
deriving DecidableEq

namespace Modes

def standard : Modes := ⟨false, true, false⟩

def letters : List Char := ['i', 'm', 's', 'U', 'u', 'R', 'x']

/-- A mode that may be turned on, turned off or left as it is. -/
def turned (on off : List Char) (letter : Char) (now : Bool) : Bool :=
  if letter ∈ on then true else if letter ∈ off then false else now

/-- The modes that letters make. No letter and no dash may come twice, and a dash needs
a letter behind it. -/
def change? (m : Modes) (marks : List Char) : Option Modes :=
  let on := marks.takeWhile (· != '-')
  let off := (marks.dropWhile (· != '-')).drop 1
  if (on ++ off).all letters.contains ∧ (on ++ off).Nodup ∧ marks.getLast? ≠ some '-' then
    some ⟨turned on off 'i' m.caseless, turned on off 'u' m.unicode, turned on off 'x' m.spaced⟩
  else none

/-! ### Blanks -/

/-- Without the blanks and comments in front. A comment ends with its line. -/
def skipComments (inside : Bool) : List Char → List Char
  | [] => []
  | c :: rest =>
    if inside then skipComments (c != '\n') rest
    else if isBlank c then skipComments false rest
    else if c = '#' then skipComments true rest
    else c :: rest

def skip (m : Modes) (cs : List Char) : List Char := if m.spaced then skipComments false cs else cs

/-- The next character that is no blank; only the mark of a comment is passed over, the
comment is not. -/
def peek? (m : Modes) (cs : List Char) : Option Char :=
  if m.spaced then
    match cs.dropWhile isBlank with
    | '#' :: rest => (rest.dropWhile isBlank).head?
    | rest => rest.head?
  else cs.head?

/-! ### Characters -/

/-- Whether a pattern may match a character. A byte of a character of more bytes is none,
and a set of bytes holds ASCII alone. -/
def admits (m : Modes) (inSet isByte : Bool) (c : Char) : Bool :=
  if m.unicode then !m.caseless else c.toNat < 128 || (!inSet && !isByte)

end Modes

/-- What stands for one character, for a class of them or for a place between two. -/
inductive Atom where
  /-- A character; `isByte` when it is written by its number in two digits. -/
  | literal (c : Char) (isByte : Bool)
  /-- Digits, blanks or letters of words, or all others. -/
  | shorthand (negated : Bool)
  /-- A place at the edge of the text or of a word. -/
  | edge (ofWord : Bool)
deriving DecidableEq

namespace Atom

/-- A character by its number in so many hexadecimal digits. -/
def numbered? (m : Modes) : Nat → List Char → List Char → Option (Char × List Char)
  | 0, digits, cs => (codePoint? digits.reverse).map (·, cs)
  | n + 1, digits, cs =>
    match m.skip cs with
    | c :: rest => if (hexDigit? c).isSome then numbered? m n (c :: digits) rest else none
    | [] => none

/-- The control characters that have letters. -/
def control? : Char → Option Char
  | 'a' => some '\x07'
  | 't' => some '\t'
  | 'n' => some '\n'
  | 'v' => some '\x0b'
  | 'f' => some '\x0c'
  | 'r' => some '\r'
  | _ => none

/-- What follows a backslash. Any sign of ASCII stands for itself, but the angle brackets
stand for the edges of a word. -/
def escaped? (m : Modes) : List Char → Option (Atom × List Char)
  | [] => none
  | c :: rest =>
    match c with
    | 'x' => (numbered? m 2 [] rest).map fun p => (literal p.1 true, p.2)
    | 'u' => (numbered? m 4 [] rest).map fun p => (literal p.1 false, p.2)
    | 'U' => (numbered? m 8 [] rest).map fun p => (literal p.1 false, p.2)
    | 'd' | 's' | 'w' => some (shorthand false, rest)
    | 'D' | 'S' | 'W' => some (shorthand true, rest)
    | 'b' | 'B' | '<' | '>' => some (edge true, rest)
    | 'A' | 'z' => some (edge false, rest)
    | c =>
      if c.toNat < 128 ∧ !c.isAlphanum then some (literal c false, rest)
      else (control? c).map fun c => (literal c false, rest)

/-- Whether an atom may stand in a pattern outside sets. -/
def fits (m : Modes) : Atom → Bool
  | literal c isByte => m.admits false isByte c
  | shorthand negated => !m.unicode && !negated
  | edge ofWord => !(m.unicode && ofWord)

/-- Whether an atom may stand in a set. -/
def fitsSet (m : Modes) : Atom → Bool
  | literal c isByte => m.admits true isByte c
  | shorthand negated => !m.unicode && !negated
  | edge _ => false

end Atom

end SwitchBench.Pattern
