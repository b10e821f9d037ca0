import SwitchBench.Toml.Scalar
import SwitchBench.Toml.Strings
import SwitchBench.Toml.Tables

/-! TOML documents, read for what they say of the keys outside all tables.

The whole document must be well formed, whatever part of it is asked for. -/
namespace SwitchBench.Toml

/-- Lists and tables inside one another, and the parts of a key, are fewer than this. -/
def depthLimit : Nat := 80

/-- What follows a comment, if there is one. -/
def skipComment? : List Char → Option (List Char)
  | '#' :: rest =>
    match rest.dropWhile isPlain with
    | [] => some []
    | rest => (afterLineEnd? rest).map fun _ => rest
  | cs => some cs

/-- What follows blanks, line ends and comments. -/
def skipLines? : Nat → List Char → Option (List Char)
  | 0, _ => none
  | n + 1, cs => do
    let rest ← skipComment? (skipSpace cs)
    match afterLineEnd? rest with
    | some rest => skipLines? n rest
    | none => return rest

mutual

/-- A value inside `depth` others and what follows it, in at most `n` steps. -/
def value? (depth : Nat) : Nat → List Char → Option (Datum × List Char)
  | 0, _ => none
  | n + 1, cs =>
    match cs with
    | '"' :: _ | '\'' :: _ => (text? cs).map fun p => (.text (.ofList p.1), p.2)
    | '[' :: rest =>
      if depth + 1 < depthLimit then (items? (depth + 1) n rest).map (Datum.other, ·) else none
    | '\x7b' :: rest =>
      if depth + 1 < depthLimit then
        match skipSpace rest with
        | '\x7d' :: rest => some (Datum.table [], rest)
        | rest => (members? (depth + 1) n [] rest).map fun p => (p.1.datum, p.2)
      else none
    | cs => bare? cs

/-- What follows the items of a list and its closing bracket. A comma may stand behind
the last item. -/
def items? (depth : Nat) : Nat → List Char → Option (List Char)
  | 0, _ => none
  | n + 1, cs => do
    let cs ← skipLines? (n + 1) cs
    match cs with
    | ']' :: rest => return rest
    | cs =>
      let (_, rest) ← value? depth n cs
      let rest ← skipLines? (n + 1) rest
      match rest with
      | ']' :: rest => return rest
      | ',' :: rest => items? depth n rest
      | _ => none

/-- The members of a table on one line behind those already read, and what follows its
closing brace. -/
def members? (depth : Nat) : Nat → Members → List Char → Option (Members × List Char)
  | 0, _, _ => none
  | n + 1, ms, cs => do
    let (key, rest) ← key? (depthLimit - 1) cs
    let '=' :: rest := rest | none
    let (d, rest) ← value? depth n (skipSpace rest)
    let ms ← ms.assign? key d
    match skipSpace rest with
    | '\x7d' :: rest => return (ms, rest)
    | ',' :: rest => members? depth n ms rest
    | _ => none

end

/-- The key of a header, and what follows the header; `close` closes it. -/
def headerKey? (close cs : List Char) : Option (List String × List Char) := do
  let (key, rest) ← key? (depthLimit - 1) cs
  if close.isPrefixOf rest then return (key, rest.drop close.length) else none

/-- What a line brings, under the header `path`: the path and the tables after it, and
what follows. A value on it takes at most `n` steps. -/
def line (n : Nat) (path : List String) (ms : Members) (cs : List Char) :
    Option (List String × Members × List Char) :=
  match cs with
  | '[' :: '[' :: rest => do
    let (key, rest) ← headerKey? [']', ']'] rest
    return (key, ← ms.row? key, rest)
  | '[' :: rest => do
    let (key, rest) ← headerKey? [']'] rest
    return (key, ← ms.header? key, rest)
  | cs => do
    let (key, rest) ← key? (depthLimit - 1) cs
    let '=' :: rest := rest | none
    let (d, rest) ← value? 0 n (skipSpace rest)
    return (path, ← ms.put? path key d, rest)

/-- The tables that lines bring, where the text is shorter than `n`. -/
def lines? : Nat → List String → Members → List Char → Option Members
  | 0, _, _, _ => none
  | n + 1, path, ms, cs => do
    match ← skipLines? (n + 1) cs with
    | [] => return ms
    | cs =>
      let (path, ms, rest) ← line (2 * n + 4) path ms cs
      match ← skipComment? (skipSpace rest) with
      | [] => return ms
      | rest => lines? n path ms (← afterLineEnd? rest)

/-- Without the mark that says how bytes are ordered. -/
def dropMark : List Char → List Char
  | '\ufeff' :: rest => rest
  | cs => cs

/-- What a document says of the keys outside all tables. -/
def ofText? (text : List Char) : Option (List (String × Datum)) :=
  (lines? (text.length + 1) [] [] (dropMark text)).map Members.entries

end SwitchBench.Toml
