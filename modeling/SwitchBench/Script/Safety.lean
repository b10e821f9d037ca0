import SwitchBench.Script.Sequence

/-! Safe switching.

Only selections, ports and delays matter. Adjacent delays count as one. The
activity on a switch is what comes before any selection, which concerns every
switch, and then whatever comes after a selection of that switch and before the
next selection. Three rules apply to it; switches are checked in the order of
their declaration and the first rule broken is reported. -/
namespace SwitchBench

namespace Safety

/-- A step that matters for safe switching, other than a selection. -/
inductive Activity where
  | port (number : UInt8)
  | delay (milliseconds : Nat)
deriving DecidableEq

/-- A rule of safe switching. -/
inductive Rule where
  /-- A delay lasts a second at least. -/
  | minimumDelay
  /-- A port change has a delay before and after it, except at either end. -/
  | portWithoutDelay
  /-- Between two different ports the switch is turned off. -/
  | portOnWithoutPortOff
deriving DecidableEq

def Rule.message : Rule → String
  | minimumDelay => "minimum delay should be 1000 msec"
  | portWithoutDelay => "port switching not surrounded with delay"
  | portOnWithoutPortOff => "Port ON not surrounded with Port OFF"

/-- In milliseconds. -/
def shortestDelay : Nat := 1000

/-- Delays are counted up to this. -/
def longestDelay : Nat := 18446744073709551615

/-- One activity more in front; a delay runs into a delay that it meets. -/
def Activity.before (a : Activity) (rest : List Activity) : List Activity :=
  match a, rest with
  | .delay x, .delay y :: rest => .delay (min (x + y) longestDelay) :: rest
  | a, rest => a :: rest

/-- The activity between two selections. -/
structure Run where
  label : String
  activity : List Activity
deriving DecidableEq

/-- The activity before any selection, and the runs that selections open. -/
def runs : List Step → List Activity × List Run
  | [] => ([], [])
  | .select label :: rest =>
    let (own, others) := runs rest
    ([], ⟨label, own⟩ :: others)
  | .port n :: rest =>
    let (own, others) := runs rest
    (Activity.before (.port n) own, others)
  | .delay ms :: rest =>
    let (own, others) := runs rest
    (Activity.before (.delay ms.toNat) own, others)
  | _ :: rest => runs rest

/-- The activity on a switch, unless it is never selected. -/
def group? (runs : List Activity × List Run) (label : String) : Option (List Activity) :=
  match runs.2.filter fun r => r.label == label with
  | [] => none
  | own => some (runs.1 ++ own.flatMap (·.activity))

def Activity.isDelay : Activity → Bool
  | delay _ => true
  | port _ => false

def Activity.port? : Activity → Option UInt8
  | port n => some n
  | delay _ => none

/-- Some delay is too short. -/
def hasShortDelay (g : List Activity) : Bool :=
  g.any fun
    | .delay ms => ms < shortestDelay
    | .port _ => false

/-- Some port between two others of the group lacks a delay on one side. -/
def hasBarePort : List Activity → Bool
  | a :: b :: c :: rest =>
    (!b.isDelay && !(a.isDelay && c.isDelay)) || hasBarePort (b :: c :: rest)
  | _ => false

/-- Some two successive ports are different and both on. -/
def hasDirectChange : List UInt8 → Bool
  | p :: q :: rest => (p ≠ 0 && q ≠ 0 && p ≠ q) || hasDirectChange (q :: rest)
  | _ => false

/-- The first rule that a group breaks. -/
def broken? (g : List Activity) : Option Rule :=
  if hasShortDelay g then some .minimumDelay
  else if hasBarePort g then some .portWithoutDelay
  else if hasDirectChange (g.filterMap Activity.port?) then some .portOnWithoutPortOff
  else none

end Safety

/-- The rule that the switching of a batch breaks and the alias of the switch. -/
structure Violation where
  label : String
  rule : Safety.Rule
deriving DecidableEq

/-- Checks a batch; nothing when it switches safely. -/
def Sequence.violation? (s : Sequence) : Option Violation :=
  let runs := Safety.runs s.steps
  s.aliases.entries.findSome? fun e =>
    ((Safety.group? runs e.1).bind Safety.broken?).map fun rule => ⟨e.1, rule⟩

end SwitchBench
