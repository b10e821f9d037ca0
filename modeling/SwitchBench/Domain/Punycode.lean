import SwitchBench.Text.Cut

/-! Punycode: text written in ASCII.

The ASCII characters of the text stand in front of the last dash. Behind it stand
numbers that say, in the order of their code points, which other characters to put in
and where. The digits of a number begin with the least; the threshold of a place says
which digits are the last ones, and it moves with the size of the numbers before. -/
namespace SwitchBench.Domain.Punycode

/-- The value of a digit: letters without regard to case, then the ten digits. -/
def digit? (c : Char) : Option Nat :=
  if c.isDigit then some (c.toNat - 48 + 26)
  else if c.isAlpha then some (c.toLower.toNat - 97)
  else none

/-- The threshold of a place, where places count by 36 from 36 on. -/
def threshold (place bias : Nat) : Nat := max 1 (min 26 (place - bias))

/-- Numbers have 32 bits. -/
def numberBound : Nat := 4294967296

/-- What a number adds to `sum`, and what follows it, from a place on where a digit
weighs `weight`. -/
def number? (bias sum weight place : Nat) : List Char → Option (Nat × List Char)
  | [] => none
  | c :: rest => do
    let d ← digit? c
    let sum := sum + d * weight
    let t := threshold place bias
    let weight := weight * (36 - t)
    if numberBound ≤ sum then failure
    else if d < t then return (sum, rest)
    else if numberBound ≤ weight then failure
    else number? bias sum weight (place + 36) rest

/-- A number has one digit at least. -/
theorem length_lt_of_number? {bias sum weight place n : Nat} {cs rest : List Char}
    (h : number? bias sum weight place cs = some (n, rest)) : rest.length < cs.length := by
  induction cs generalizing sum weight place with
  | nil => simp [number?] at h
  | cons c cs ih =>
    simp only [number?] at h
    cases hd : digit? c with
    | none => simp [hd] at h
    | some d =>
      simp only [hd, Option.bind_eq_bind, Option.bind_some] at h
      split at h
      · simp at h
      · split at h
        · have hr : cs = rest := by
            simp only [Option.pure_def, Option.some.injEq, Prod.mk.injEq] at h
            exact h.2
          simp [hr]
        · split at h
          · simp at h
          · exact Nat.lt_succ_of_lt (ih h)

/-- Takes a step of a large number to the scale of the bias. -/
def scaled (step places : Nat) : Nat :=
  if 455 < step then scaled (step / 35) (places + 36) else places + 36 * step / (step + 38)
termination_by step

/-- The bias behind a number that stepped so far, in a text of so many characters. -/
def nextBias (step length : Nat) (isFirst : Bool) : Nat :=
  let step := if isFirst then step / 700 else step / 2
  scaled (step + step / length) 0

/-- Puts in the characters that numbers say; `code` is the latest code point and `at'`
the place behind it. -/
def insert? (bias code at' : Nat) (isFirst : Bool) (text cs : List Char) : Option (List Char) :=
  if cs = [] then some text
  else
    match h : number? bias at' 1 36 cs with
    | none => none
    | some (n, rest) =>
      have := length_lt_of_number? h
      let length := text.length + 1
      let code := code + n / length
      let place := n % length
      if code.isValidChar then
        insert? (nextBias (n - at') length isFirst) code (place + 1) false
          (text.take place ++ .ofNat code :: text.drop place) rest
      else none
termination_by cs.length

/-- The text that is written so. A dash with nothing in front of it is no digit either. -/
def decode? (cs : List Char) : Option (List Char) :=
  if cs.all fun c => c.toNat < 128 then
    match Text.cutLast? '-' cs with
    | some ([], _) => none
    | some (basic, numbers) => insert? 72 128 0 true basic numbers
    | none => insert? 72 128 0 true [] cs
  else none

end SwitchBench.Domain.Punycode
