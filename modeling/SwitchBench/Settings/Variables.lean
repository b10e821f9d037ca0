import SwitchBench.Decimal.Written
import SwitchBench.Settings.Settings
import SwitchBench.Text.Blank
import SwitchBench.Text.Case
import SwitchBench.Text.Escape
import SwitchBench.Text.Numeral

/-! Variables: settings in the environment.

A variable gives a setting when its name is the common start and then the name of the
setting, letter case and blanks around it aside. A point or two underscores in the name
make a table of the setting that stands in front. The value of a variable is what it
looks like: a truth value, a number, a quoted text, a list in brackets, a table in
braces, or else the text as it stands. A value with commas that opens no quote, bracket
or brace is a list. -/
namespace SwitchBench

namespace Variable

/-- How the names of all variables start. -/
def commonStart : List Char := "switchctl_".toList

/-- The name of the variable that names a file of settings, in exactly these letters. -/
def fileName : String := "SWITCHCTL_CONFIG_PATH"

/-! ### Values -/

def isSpace (c : Char) : Bool :=
  c == ' ' || c == '\t' || c == '\n' || c == '\x0c' || c == '\r'

/-- A character that ends a bare value. -/
def isSeparator (c : Char) : Bool := c == ',' || c == '\x7b' || c == '\x7d' || c == '[' || c == ']'

def isNameCharacter (c : Char) : Bool := c.isAlphanum || c == '_' || c == '-'

/-- A control character; a tab counts as none. -/
def isControl (c : Char) : Bool := (c.toNat < 32 && c != '\t') || c.toNat == 127

/-- The rest of a quoted text, and what follows its closing quote. -/
def quoted? : List Char → Option (List Char × List Char)
  | [] => none
  | '"' :: rest => some ([], rest)
  | '\\' :: 'u' :: a :: b :: c :: d :: rest => do
    let u ← Text.codePoint? [a, b, c, d]
    let (text, rest) ← quoted? rest
    return (u :: text, rest)
  | '\\' :: 'U' :: a :: b :: c :: d :: e :: f :: g :: h :: rest => do
    let u ← Text.codePoint? [a, b, c, d, e, f, g, h]
    let (text, rest) ← quoted? rest
    return (u :: text, rest)
  | '\\' :: c :: rest => do
    let e ← Text.escaped? c
    let (text, rest) ← quoted? rest
    return (e :: text, rest)
  | c :: rest => do
    let (text, rest) ← quoted? rest
    if isControl c then none else return (c :: text, rest)

/-- A value without quotes, brackets or braces. Only a number with a point has a
fraction. -/
def bare (cs : List Char) : Datum :=
  match (if cs.contains '.' then Decimal.Written.ofText? cs else none), Text.word64? cs, cs with
  | some x, _, _ => if x.isFinite then .other else .null
  | none, some n, _ => .whole n.toNat
  | none, none, '-' :: ds =>
    match Text.numeral? 9223372036854775808 ds with
    | some n => if ds.head? = some '+' then .text (.ofList cs) else .whole (-n)
    | none => .text (.ofList cs)
  | none, none, _ => .text (.ofList cs)

/-- Drops a text that stands in front, letter case aside. -/
def after? (start cs : List Char) : Option (List Char) :=
  if start.isPrefixOf (Text.lower (cs.take start.length)) then some (cs.drop start.length) else none

mutual

/-- A value and what follows it, in at most `n` steps. -/
def value? : Nat → List Char → Option (Datum × List Char)
  | 0, _ => none
  | n + 1, cs => do
    let cs := cs.dropWhile isSpace
    let (d, rest) ←
      match after? "true".toList cs, after? "false".toList cs with
      | some rest, _ | none, some rest => some (Datum.other, rest)
      | none, none =>
        match cs with
        | '\x7b' :: rest => (members? n [] rest).map fun p => (.table p.1, p.2)
        | '[' :: rest => (items? n rest).map (Datum.other, ·)
        | '"' :: rest => (quoted? rest).map fun p => (.text (.ofList p.1), p.2)
        | '\'' :: c :: '\'' :: rest => some (.text (.ofList [c]), rest)
        | '\'' :: _ => none
        | _ => some (bare (Text.trim (cs.takeWhile (!isSeparator ·))), cs.dropWhile (!isSeparator ·))
    return (d, rest.dropWhile isSpace)

/-- What follows the items of a list and its closing bracket. -/
def items? : Nat → List Char → Option (List Char)
  | 0, _ => none
  | _ + 1, ']' :: rest => some rest
  | n + 1, cs => do
    let (_, rest) ← value? n cs
    match rest with
    | ']' :: rest => some rest
    | ',' :: rest => items? n rest
    | _ => none

/-- The members of a table, where those in front are read, and what follows its closing
brace. A name that comes again takes the new value. -/
def members? : Nat → List (String × Bool) → List Char → Option (List (String × Bool) × List Char)
  | 0, _, _ => none
  | _ + 1, ms, '\x7d' :: rest => some (ms, rest)
  | n + 1, ms, cs => do
    let (name, rest) ← match cs.dropWhile isSpace with
      | '"' :: rest => quoted? rest
      | c :: rest =>
        if isNameCharacter c then
          some (c :: rest.takeWhile isNameCharacter, rest.dropWhile isNameCharacter)
        else none
      | [] => none
    match rest.dropWhile isSpace with
    | '=' :: rest =>
      let (d, rest) ← value? n rest
      let ms := (ms.filter fun m => m.1 != .ofList name) ++ [(.ofList name, d == .null)]
      match rest with
      | '\x7d' :: rest => some (ms, rest)
      | ',' :: rest => members? n ms rest
      | _ => none
    | _ => none

end

/-- What the value of a variable says. -/
def datum (raw : List Char) : Datum :=
  let text := Text.trim raw
  let opens := match text with
    | c :: _ => c == '[' || c == '\x7b' || c == '"' || c == '\''
    | [] => false
  if raw.contains ',' && !opens then .other
  else match value? (2 * text.length + 2) text with
    | some (d, []) => d
    | some (_, _ :: _) | none => .text (.ofList text)

/-! ### Names -/

/-- With a point for every two underscores in a row. -/
def pointed : List Char → List Char
  | '_' :: '_' :: rest => '.' :: pointed rest
  | c :: rest => c :: pointed rest
  | [] => []

/-- The parts of the name of a setting that a variable names. A variable with an empty
part in its name gives no setting. -/
def parts? (name : List Char) : Option (List (List Char)) :=
  (after? commonStart (Text.trim name)).bind fun rest =>
    let parts := (Text.lower (Text.trim (pointed rest))).splitOn '.'
    if parts.contains [] then none else some parts

/-- What a variable says of a setting. -/
def entry? (name value : List Char) : Option (String × Datum) :=
  match parts? name with
  | none | some [] => none
  | some [key] => some (.ofList key, datum value)
  | some [key, member] => some (.ofList key, .table [(.ofList member, datum value == .null)])
  | some (key :: member :: _ :: _) => some (.ofList key, .table [(.ofList member, false)])

end Variable

/-- The layer of an environment. -/
def Layer.ofVariables (environment : List (String × String)) : Layer :=
  .ofEntries (environment.filterMap fun e => Variable.entry? e.1.toList e.2.toList)

end SwitchBench
