import SwitchBench.Text.Escape

/-! Texts in a TOML document.

A text stands in double or in single quotes, one of a kind for one line and three for
many lines. Between double quotes a backslash has its meaning, between single quotes
nothing has. A line end right behind three quotes is not part of the text. -/
namespace SwitchBench.Toml

def isSpace (c : Char) : Bool := c == ' ' || c == '\t'

/-- Any character but a control character; a tab is allowed. -/
def isPlain (c : Char) : Bool := c == '\t' || (32 ≤ c.toNat && c.toNat != 127)

def skipSpace (cs : List Char) : List Char := cs.dropWhile isSpace

/-- What follows a line end. -/
def afterLineEnd? : List Char → Option (List Char)
  | '\n' :: rest | '\r' :: '\n' :: rest => some rest
  | _ => none

/-- What follows one line end, if there is one. -/
def dropLineEnd (cs : List Char) : List Char := (afterLineEnd? cs).getD cs

/-- Without the blanks and line ends in front; `n` bounds the number of line ends. -/
def skipBlank : Nat → List Char → List Char
  | 0, cs => cs
  | n + 1, cs =>
    match afterLineEnd? (skipSpace cs) with
    | some rest => skipBlank n rest
    | none => skipSpace cs

/-- A character that a backslash begins, and what follows it. -/
def escape? : List Char → Option (Char × List Char)
  | 'u' :: rest => (Text.codePoint? (rest.take 4)).bind fun c =>
    if 4 ≤ rest.length then some (c, rest.drop 4) else none
  | 'U' :: rest => (Text.codePoint? (rest.take 8)).bind fun c =>
    if 8 ≤ rest.length then some (c, rest.drop 8) else none
  | c :: rest => (Text.escaped? c).map (·, rest)
  | [] => none

/-- What follows a text on one line, and the text. -/
def basicLine? : Nat → List Char → Option (List Char × List Char)
  | 0, _ | _, [] => none
  | _ + 1, '"' :: rest => some ([], rest)
  | n + 1, '\\' :: rest => do
    let (c, rest) ← escape? rest
    let (text, rest) ← basicLine? n rest
    return (c :: text, rest)
  | n + 1, c :: rest => do
    let (text, rest) ← basicLine? n rest
    if isPlain c then return (c :: text, rest) else none

/-- The quotes that end a text of many lines: three, behind up to two that belong to
the text. Gives those two and what follows. -/
def closing? (quote : Char) (cs : List Char) : Option (List Char × List Char) :=
  let run := (cs.takeWhile (· == quote)).length
  if run < 3 then none
  else
    let kept := min (run - 3) 2
    some (cs.take kept, cs.drop (kept + 3))

def basicLines? : Nat → List Char → Option (List Char × List Char)
  | 0, _ | _, [] => none
  | n + 1, c :: rest =>
    match c with
    | '"' => match closing? '"' (c :: rest) with
      | some p => some p
      | none => (basicLines? n rest).map fun p => (c :: p.1, p.2)
    | '\\' => match afterLineEnd? (skipSpace rest) with
      | some rest => basicLines? n (skipBlank rest.length rest)
      | none => do
        let (e, rest) ← escape? rest
        let (text, rest) ← basicLines? n rest
        return (e :: text, rest)
    | c => match afterLineEnd? (c :: rest) with
      | some rest => (basicLines? n rest).map fun p => ('\n' :: p.1, p.2)
      | none => if isPlain c then (basicLines? n rest).map fun p => (c :: p.1, p.2) else none

/-- A text in single quotes on one line. -/
def literalLine? (cs : List Char) : Option (List Char × List Char) :=
  match cs.dropWhile fun c => isPlain c && c != '\'' with
  | '\'' :: rest => some (cs.takeWhile fun c => isPlain c && c != '\'', rest)
  | _ => none

def literalLines? : Nat → List Char → Option (List Char × List Char)
  | 0, _ | _, [] => none
  | n + 1, c :: rest =>
    match closing? '\'' (c :: rest), afterLineEnd? (c :: rest) with
    | some p, _ => some p
    | none, some rest => (literalLines? n rest).map fun p => ('\n' :: p.1, p.2)
    | none, none => if isPlain c then (literalLines? n rest).map fun p => (c :: p.1, p.2) else none

/-- A text of one line, from its quote on. -/
def line? : List Char → Option (List Char × List Char)
  | '"' :: rest => basicLine? (rest.length + 1) rest
  | '\'' :: rest => literalLine? rest
  | _ => none

/-- A text of any kind, from its first quote on. -/
def text? : List Char → Option (List Char × List Char)
  | '"' :: '"' :: '"' :: rest => basicLines? (rest.length + 1) (dropLineEnd rest)
  | '\'' :: '\'' :: '\'' :: rest => literalLines? (rest.length + 1) (dropLineEnd rest)
  | cs => line? cs

/-! ### Keys -/

def isBareKey (c : Char) : Bool := c.isAlphanum || c == '_' || c == '-'

/-- One part of a key: a bare word or a text of one line. -/
def keyPart? (cs : List Char) : Option (List Char × List Char) :=
  if cs.takeWhile isBareKey = [] then line? cs
  else some (cs.takeWhile isBareKey, cs.dropWhile isBareKey)

/-- A key of up to `n` parts with dots between them, and what follows it and the spaces
behind it. -/
def key? : Nat → List Char → Option (List String × List Char)
  | 0, _ => none
  | n + 1, cs => do
    let (part, rest) ← keyPart? (skipSpace cs)
    match skipSpace rest with
    | '.' :: rest =>
      let (parts, rest) ← key? n rest
      return (String.ofList part :: parts, rest)
    | rest => return ([String.ofList part], rest)

end SwitchBench.Toml
