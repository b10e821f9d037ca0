import SwitchBench.Json.Scan

/-! Reading one JSON value, byte by byte.

A walk carries the arrays and objects that are still open, innermost first, and the
place it has reached. A value that is stepped over is walked in the same way, but
nothing of it is kept and it may be nested to any depth. -/
namespace SwitchBench.Json

/-- An array or object that is still open, with its content so far, latest first. -/
inductive Frame where
  | array (items : List Json)
  /-- `name` is the name of the member whose value comes next. -/
  | object (members : List (String × Json)) (name : String)

namespace Frame

def add (v : Json) : Frame → Frame
  | array items => array (v :: items)
  | object members name => object ((name, v) :: members) name

def rename (name : String) : Frame → Frame
  | array items => array items
  | object members _ => object members name

/-- The value of a closed frame. -/
def value : Frame → Json
  | array items => .array items.reverse
  | object members _ => ofMembers members.reverse

end Frame

inductive Phase where
  /-- A value is due. -/
  | value
  /-- After an opening bracket: a value or the closing bracket. -/
  | item
  /-- After an opening brace: a name or the closing brace. -/
  | member
  /-- After a comma in an object: a name. -/
  | name
  | colon
  /-- After a value inside the innermost frame. -/
  | after
  | text (s : TextScan)
  | nameText (s : TextScan)
  /-- Inside `null`, `true` or `false`, with the letters still due. -/
  | word (due : List UInt8) (v : Json)
  | number (s : NumberScan)

structure Walk where
  frames : List Frame
  phase : Phase

namespace Walk

/-- The first byte of a value inside `frames`. -/
def enter (mode : Mode) (frames : List Frame) (b : UInt8) : Option Walk :=
  if b == 0x6E then some ⟨frames, .word [0x75, 0x6C, 0x6C] .null⟩
  else if b == 0x74 then some ⟨frames, .word [0x72, 0x75, 0x65] (.bool true)⟩
  else if b == 0x66 then some ⟨frames, .word [0x61, 0x6C, 0x73, 0x65] (.bool false)⟩
  else if b == 0x2D then some ⟨frames, .number .ofSign⟩
  else if isDigit b then some ⟨frames, .number (.ofDigit b)⟩
  else if b == 0x22 then some ⟨frames, .text .start⟩
  else if b == 0x5B then
    if mode.admits frames then some ⟨.array [] :: frames, .item⟩ else none
  else if b == 0x7B then
    if mode.admits frames then some ⟨.object [] "" :: frames, .member⟩ else none
  else none

/-- `enter` as a step. -/
def begin (mode : Mode) (frames : List Frame) (b : UInt8) : Fed Walk Json :=
  match enter mode frames b with
  | some w => .more w
  | none => .bad

/-- A value that has been read takes its place. Outside all frames it is what was
to be read. -/
def deliver (mode : Mode) (v : Json) : List Frame → Fed Walk Json
  | [] => .done v
  | f :: rest => .more ⟨(if mode.keeps then f.add v else f) :: rest, .after⟩

/-- The innermost frame ends. -/
def leave (mode : Mode) : List Frame → Fed Walk Json
  | [] => .bad
  | f :: rest => deliver mode (if mode.keeps then f.value else .null) rest

/-- A byte after a value inside the innermost frame. -/
def separate (mode : Mode) (frames : List Frame) (b : UInt8) : Fed Walk Json :=
  match frames with
  | .array _ :: _ =>
    if isSpace b then .more ⟨frames, .after⟩
    else if b == 0x2C then .more ⟨frames, .value⟩
    else if b == 0x5D then leave mode frames
    else .bad
  | .object .. :: _ =>
    if isSpace b then .more ⟨frames, .after⟩
    else if b == 0x2C then .more ⟨frames, .name⟩
    else if b == 0x7D then leave mode frames
    else .bad
  | [] => .bad

/-- A number outside all frames ends before the byte that shows its end; inside a
frame that byte separates. -/
def deliverNumber (mode : Mode) (n : Numeral) (frames : List Frame) (b : UInt8) : Fed Walk Json :=
  let value : Option Json := if mode.keeps then n.value?.map .number else some .null
  match value, frames with
  | none, _ => .bad
  | some v, [] => .past v
  | some v, f :: rest => separate mode ((if mode.keeps then f.add v else f) :: rest) b

def feed (mode : Mode) (w : Walk) (b : UInt8) : Fed Walk Json :=
  match w.phase with
  | .value => if isSpace b then .more w else begin mode w.frames b
  | .item =>
    if isSpace b then .more w
    else if b == 0x5D then leave mode w.frames
    else begin mode w.frames b
  | .member =>
    if isSpace b then .more w
    else if b == 0x7D then leave mode w.frames
    else if b == 0x22 then .more { w with phase := .nameText .start }
    else .bad
  | .name =>
    if isSpace b then .more w
    else if b == 0x22 then .more { w with phase := .nameText .start }
    else .bad
  | .colon =>
    if isSpace b then .more w
    else if b == 0x3A then .more { w with phase := .value }
    else .bad
  | .after => separate mode w.frames b
  | .text s =>
    match s.feed mode b with
    | .more s => .more { w with phase := .text s }
    | .done t | .past t => deliver mode (.string t) w.frames
    | .bad => .bad
  | .nameText s =>
    match s.feed mode b with
    | .more s => .more { w with phase := .nameText s }
    | .done t | .past t =>
      match w.frames with
      | f :: rest => .more ⟨f.rename t :: rest, .colon⟩
      | [] => .bad
    | .bad => .bad
  | .word due v =>
    match due with
    | [] => .bad
    | c :: rest =>
      if b == c then
        if rest.isEmpty then deliver mode v w.frames else .more { w with phase := .word rest v }
      else .bad
  | .number s =>
    match s.feed b with
    | .more s => .more { w with phase := .number s }
    | .done n | .past n => deliverNumber mode n w.frames b
    | .bad => .bad

/-- What the end of the input makes of a walk. -/
inductive Ending where
  /-- The value had ended. -/
  | value (v : Json)
  /-- The value is cut off. -/
  | cut
  /-- No continuation would have been well-formed. -/
  | bad

/-- The input ends. A number may end here; one that may not is cut off, but counts
as malformed in a value that is stepped over. -/
def finish (mode : Mode) (w : Walk) : Ending :=
  match w.phase with
  | .number s =>
    match s.numeral?, mode with
    | none, .keep _ => .cut
    | none, .skip => .bad
    | some _, .skip => .cut
    | some n, .keep _ =>
      match n.value?, w.frames with
      | none, _ => .bad
      | some v, [] => .value (.number v)
      | some _, _ :: _ => .cut
  | _ => .cut

end Walk

/-- Reads one whole value, white space around it allowed, nested in at most `room`
levels. -/
def read? (room : Nat) (bytes : List UInt8) : Option Json :=
  go ⟨[], .value⟩ bytes
where
  go (w : Walk) : List UInt8 → Option Json
    | [] => match w.finish (.keep room) with
      | .value v => some v
      | .cut | .bad => none
    | b :: rest => match w.feed (.keep room) b with
      | .more w => go w rest
      | .done v => if rest.all isSpace then some v else none
      | .past v => if (b :: rest).all isSpace then some v else none
      | .bad => none

end SwitchBench.Json
