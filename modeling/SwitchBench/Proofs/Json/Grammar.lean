import SwitchBench.Json.Writer

/-! Texts that are JSON.

A text is well-formed whatever the white space between its tokens and however its strings are spelled:
a character may stand for itself, or be written with a letter or in hexadecimal digits of either case,
and one beyond the first 65536 in two halves (`Spelled`). Well-formedness asks for less than that a
string has a text: its escapes may be halves that do not match (`Quotable`). -/
namespace SwitchBench.Json

/-- White space between tokens. -/
def Blank (cs : List Char) : Prop := ∀ c ∈ cs, c = ' ' ∨ c = '\n' ∨ c = '\r' ∨ c = '\t'

instance (cs : List Char) : Decidable (Blank cs) := List.decidableBAll _ cs

/-! ### Strings -/

def HexDigit (c : Char) (d : Nat) : Prop :=
  "0123456789abcdef".toList[d]? = some c ∨ "0123456789ABCDEF".toList[d]? = some c

/-- Four hexadecimal digits and their number. -/
inductive FourHex : List Char → Nat → Prop
  | digits {a b c d : Char} {i j k l : Nat} (ha : HexDigit a i) (hb : HexDigit b j) (hc : HexDigit c k)
    (hd : HexDigit d l) : FourHex [a, b, c, d] (((i * 16 + j) * 16 + k) * 16 + l)

/-- The letters of escapes, each with what it stands for. -/
def letters : List (Char × Char) :=
  [('"', '"'), ('\\', '\\'), ('/', '/'), ('b', '\x08'), ('f', '\x0c'), ('n', '\n'), ('r', '\r'), ('t', '\t')]

/-- A character that may stand for itself. -/
def Plain (c : Char) : Prop := c ≠ '"' ∧ c ≠ '\\' ∧ ¬ c.toNat < 0x20

instance (c : Char) : Decidable (Plain c) := inferInstanceAs (Decidable (_ ∧ _ ∧ _))

/-- What may stand between quotes. -/
inductive Quotable : List Char → Prop
  | nil : Quotable []
  | plain {c : Char} {cs : List Char} (hc : Plain c) (rest : Quotable cs) : Quotable (c :: cs)
  | letter {l c : Char} {cs : List Char} (hl : (l, c) ∈ letters) (rest : Quotable cs) : Quotable ('\\' :: l :: cs)
  | unit {ds cs : List Char} {n : Nat} (hds : FourHex ds n) (rest : Quotable cs) :
    Quotable ('\\' :: 'u' :: (ds ++ cs))

/-- The spellings of a text between quotes. -/
inductive Spelled : List Char → List Char → Prop
  | nil : Spelled [] []
  | plain {c : Char} {cs text : List Char} (hc : Plain c) (rest : Spelled cs text) : Spelled (c :: cs) (c :: text)
  | letter {l c : Char} {cs text : List Char} (hl : (l, c) ∈ letters) (rest : Spelled cs text) :
    Spelled ('\\' :: l :: cs) (c :: text)
  | unit {ds cs text : List Char} {n : Nat} (hds : FourHex ds n) (hn : n < 0xD800 ∨ 0xDFFF < n)
    (rest : Spelled cs text) : Spelled ('\\' :: 'u' :: (ds ++ cs)) (Char.ofNat n :: text)
  | halves {ds es cs text : List Char} {high low : Nat} (hds : FourHex ds high) (hes : FourHex es low)
    (hhigh : 0xD800 ≤ high ∧ high ≤ 0xDBFF) (hlow : 0xDC00 ≤ low ∧ low ≤ 0xDFFF) (rest : Spelled cs text) :
    Spelled ('\\' :: 'u' :: (ds ++ '\\' :: 'u' :: (es ++ cs)))
      (Char.ofNat ((high - 0xD800) * 0x400 + (low - 0xDC00) + 0x10000) :: text)

/-- What needs no escape spells itself. -/
theorem spelled_self {cs : List Char} (h : cs.all (decide <| Plain ·) = true) : Spelled cs cs := by
  induction cs with
  | nil => exact .nil
  | cons c cs ih =>
    obtain ⟨hc, hcs⟩ := Bool.and_eq_true_iff.mp h
    exact .plain (of_decide_eq_true hc) (ih hcs)

/-! ### Numbers -/

def Digits (cs : List Char) : Prop := cs ≠ [] ∧ ∀ c ∈ cs, c.isDigit = true

instance (cs : List Char) : Decidable (Digits cs) := @instDecidableAnd _ _ _ (List.decidableBAll _ cs)

/-- Digits without a leading zero. -/
def Whole (cs : List Char) : Prop := cs = ['0'] ∨ Digits cs ∧ cs.head? ≠ some '0'

inductive Fraction : List Char → Prop
  | none : Fraction []
  | some {ds : List Char} (hds : Digits ds) : Fraction ('.' :: ds)

inductive Exponent : List Char → Prop
  | none : Exponent []
  | some {mark : Char} {sign ds : List Char} (hmark : mark = 'e' ∨ mark = 'E')
    (hsign : sign = [] ∨ sign = ['+'] ∨ sign = ['-']) (hds : Digits ds) : Exponent (mark :: (sign ++ ds))

/-- A number of any size. -/
inductive Numeric : List Char → Prop
  | positive {whole fraction exponent : List Char} (hwhole : Whole whole) (hfraction : Fraction fraction)
    (hexponent : Exponent exponent) : Numeric (whole ++ (fraction ++ exponent))
  | negative {whole fraction exponent : List Char} (hwhole : Whole whole) (hfraction : Fraction fraction)
    (hexponent : Exponent exponent) : Numeric ('-' :: (whole ++ (fraction ++ exponent)))

/-! ### Values -/

/-- A value, the items of an array or the members of an object. -/
inductive Part where
  | value
  | items
  | members

/-- What is well-formed, nested to any depth. -/
inductive WellFormed : Part → List Char → Prop
  | null : WellFormed .value ['n', 'u', 'l', 'l']
  | true : WellFormed .value ['t', 'r', 'u', 'e']
  | false : WellFormed .value ['f', 'a', 'l', 's', 'e']
  | number {cs : List Char} (hcs : Numeric cs) : WellFormed .value cs
  | string {cs : List Char} (hcs : Quotable cs) : WellFormed .value ('"' :: (cs ++ ['"']))
  | noItems {w : List Char} (hw : Blank w) : WellFormed .value ('[' :: (w ++ [']']))
  | array {cs : List Char} (items : WellFormed .items cs) : WellFormed .value ('[' :: (cs ++ [']']))
  | noMembers {w : List Char} (hw : Blank w) : WellFormed .value ('\x7b' :: (w ++ ['\x7d']))
  | object {cs : List Char} (members : WellFormed .members cs) : WellFormed .value ('\x7b' :: (cs ++ ['\x7d']))
  | item {v w x : List Char} (hw : Blank w) (value : WellFormed .value v) (hx : Blank x) :
    WellFormed .items (w ++ (v ++ x))
  | items {v w x rest : List Char} (hw : Blank w) (value : WellFormed .value v) (hx : Blank x)
    (more : WellFormed .items rest) : WellFormed .items (w ++ (v ++ (x ++ ',' :: rest)))
  | member {name v w x y z : List Char} (hw : Blank w) (hname : Quotable name) (hx : Blank x) (hy : Blank y)
    (value : WellFormed .value v) (hz : Blank z) :
    WellFormed .members (w ++ '"' :: (name ++ '"' :: (x ++ ':' :: (y ++ (v ++ z)))))
  | members {name v w x y z rest : List Char} (hw : Blank w) (hname : Quotable name) (hx : Blank x)
    (hy : Blank y) (value : WellFormed .value v) (hz : Blank z) (more : WellFormed .members rest) :
    WellFormed .members (w ++ '"' :: (name ++ '"' :: (x ++ ':' :: (y ++ (v ++ (z ++ ',' :: rest))))))

/-- The spellings of a value that is neither an array nor an object nor a number with a fraction. -/
inductive Spells : Json → List Char → Prop
  | null : Spells .null ['n', 'u', 'l', 'l']
  | string {s : String} {cs : List Char} (hcs : Spelled cs s.toList) : Spells (.string s) ('"' :: (cs ++ ['"']))
  | whole (n : Int) : Spells (.number (.whole n)) (wholeText n)

/-! ### Objects and arrays by their parts -/

/-- Members by name, each with the text of its value. -/
inductive Members : List (String × List Char) → List Char → Prop
  | one {name : String} {spelling v w x y z : List Char} (hw : Blank w) (hname : Spelled spelling name.toList)
    (hx : Blank x) (hy : Blank y) (hz : Blank z) :
    Members [(name, v)] (w ++ '"' :: (spelling ++ '"' :: (x ++ ':' :: (y ++ (v ++ z)))))
  | more {name : String} {spelling v w x y z rest : List Char} {ms : List (String × List Char)} (hw : Blank w)
    (hname : Spelled spelling name.toList) (hx : Blank x) (hy : Blank y) (hz : Blank z) (hrest : Members ms rest) :
    Members ((name, v) :: ms) (w ++ '"' :: (spelling ++ '"' :: (x ++ ':' :: (y ++ (v ++ (z ++ ',' :: rest))))))

/-- The text of an object. -/
inductive ObjectText : List (String × List Char) → List Char → Prop
  | empty {w : List Char} (hw : Blank w) : ObjectText [] ('\x7b' :: (w ++ ['\x7d']))
  | members {ms : List (String × List Char)} {cs : List Char} (hms : Members ms cs) :
    ObjectText ms ('\x7b' :: (cs ++ ['\x7d']))

/-- Items, each by its text. -/
inductive Items : List (List Char) → List Char → Prop
  | one {v w x : List Char} (hw : Blank w) (hx : Blank x) : Items [v] (w ++ (v ++ x))
  | more {v w x rest : List Char} {vs : List (List Char)} (hw : Blank w) (hx : Blank x) (hrest : Items vs rest) :
    Items (v :: vs) (w ++ (v ++ (x ++ ',' :: rest)))

/-- The text of an array. -/
inductive ArrayText : List (List Char) → List Char → Prop
  | empty {w : List Char} (hw : Blank w) : ArrayText [] ('[' :: (w ++ [']']))
  | items {vs : List (List Char)} {cs : List Char} (hvs : Items vs cs) : ArrayText vs ('[' :: (cs ++ [']']))

end SwitchBench.Json
