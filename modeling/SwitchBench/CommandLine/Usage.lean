import SwitchBench.Switch.Model
import SwitchBench.Text.Cut

/-! Commands as they are typed.

A command is a name and then its arguments: one operand and some options, in any order.
An argument that begins with a dash and is longer than that is an option; behind two
dashes by themselves no argument is an option any more. The value of an option stands
behind an equals sign or is the next argument that is no option.

Arguments are read from left to right, and the first that is wrong decides. An operand
or a value is looked at only when the next known option or the next operand is reached,
or at the end; an unknown argument comes before it. -/
namespace SwitchBench

/-- What the program is asked to do. -/
inductive Task where
  | check (script : String)
  | run (script : String) (force : Bool) (untilStopped : Bool)
  | status (switch : String) (model : Model)
deriving DecidableEq

/-- Why a command line says nothing to do. -/
inductive UsageError where
  | helpAsked
  | versionAsked
  /-- There is no command. -/
  | nothingGiven
  | unknownArgument
  | unknownCommand
  | missingOperand
  /-- A path is empty, or an option is without its value. -/
  | emptyValue
  | invalidValue
  | repeatedOption
  /-- An option that takes no value has one. -/
  | needlessValue
deriving DecidableEq

/-- Help and the version are answers, not failures. -/
def UsageError.isFailure : UsageError → Bool
  | helpAsked | versionAsked => false
  | nothingGiven | unknownArgument | unknownCommand | missingOperand | emptyValue | invalidValue
  | repeatedOption | needlessValue => true

namespace Usage

inductive CommandName where
  | check | run | status
deriving DecidableEq

namespace CommandName

def all : List CommandName := [check, run, status]

def name : CommandName → String
  | check => "check"
  | run => "run"
  | status => "status"

def ofName? (s : String) : Option CommandName := all.find? fun c => c.name == s

/-- Whether the operand is the path of a script. -/
def takesPath : CommandName → Bool
  | check | run => true
  | status => false

end CommandName

inductive OptionName where
  | help | force | untilStopped | model
deriving DecidableEq

/-- The option of a name, if the command has it. -/
def optionOf? (c : CommandName) (name : String) : Option OptionName :=
  match name, c with
  | "help", _ => some .help
  | "force", .run => some .force
  | "until-stopped", .run => some .untilStopped
  | "model", .status => some .model
  | _, _ => none

/-- What was read and not yet looked at. -/
inductive Pending where
  | nothing
  | operand (text : String)
  | modelValue (text : Option String)
deriving DecidableEq

/-- What was read of a command. -/
structure Gathered where
  operand : Option String
  force : Bool
  untilStopped : Bool
  model : Option Model
  pending : Pending
deriving DecidableEq

def Gathered.empty : Gathered := ⟨none, false, false, none, .nothing⟩

/-- Takes the value of the option for a model. -/
def Gathered.takeModel (g : Gathered) (text : String) : Except UsageError Gathered :=
  if g.model.isSome then .error .repeatedOption
  else match Model.ofName? text with
    | some m => .ok { g with model := some m, pending := .nothing }
    | none => .error .invalidValue

/-- Looks at what is pending. -/
def Gathered.settle (c : CommandName) (g : Gathered) : Except UsageError Gathered :=
  match g.pending with
  | .nothing => .ok g
  | .operand text =>
    if c.takesPath && text.isEmpty then .error .emptyValue
    else .ok { g with operand := some text, pending := .nothing }
  | .modelValue none => .error .emptyValue
  | .modelValue (some text) => g.takeModel text

/-- Takes an argument that is no option. -/
def Gathered.takeOperand (c : CommandName) (g : Gathered) (text : String) :
    Except UsageError Gathered :=
  match g.operand, g.pending with
  | some _, _ | none, .operand _ => .error .unknownArgument
  | none, .nothing | none, .modelValue _ => do
    let g ← g.settle c
    return { g with pending := .operand text }

/-- Takes an option that the command has, with the value behind its equals sign. -/
def Gathered.takeOption (c : CommandName) (g : Gathered) (o : OptionName) (value : Option String) :
    Except UsageError Gathered :=
  match o, value with
  | .model, none => do
    let g ← g.settle c
    return { g with pending := .modelValue none }
  | .model, some text => do
    let g ← g.settle c
    g.takeModel text
  | .help, some _ | .force, some _ | .untilStopped, some _ => .error .needlessValue
  | .help, none => do
    let _ ← g.settle c
    throw .helpAsked
  | .force, none => do
    let g ← g.settle c
    if g.force then throw .repeatedOption else return { g with force := true }
  | .untilStopped, none => do
    let g ← g.settle c
    if g.untilStopped then throw .repeatedOption else return { g with untilStopped := true }

/-- The name of an option in an argument that begins with two dashes, and the value
behind its equals sign. -/
def optionText (text : List Char) : String × Option String :=
  match Text.cutFirst? '=' text with
  | some (name, value) => (.ofList name, some (.ofList value))
  | none => (.ofList text, none)

/-- Takes an argument before any two dashes. -/
def Gathered.take (c : CommandName) (g : Gathered) (arg : String) : Except UsageError Gathered :=
  match arg.toList with
  | '-' :: '-' :: text =>
    let (name, value) := optionText text
    match optionOf? c name with
    | some o => g.takeOption c o value
    | none => .error .unknownArgument
  | '-' :: 'h' :: _ => g.takeOption c .help none
  | '-' :: _ :: _ => .error .unknownArgument
  | _ =>
    match g.pending with
    | .modelValue none => .ok { g with pending := .modelValue (some arg) }
    | .nothing | .operand _ | .modelValue (some _) => g.takeOperand c arg

/-- Takes arguments; `literal` says whether two dashes have been passed. -/
def Gathered.takeAll (c : CommandName) (literal : Bool) (g : Gathered) :
    List String → Except UsageError Gathered
  | [] => g.settle c
  | arg :: rest =>
    if literal then do
      let g ← g.takeOperand c arg
      takeAll c true g rest
    else if arg = "--" then takeAll c true g rest
    else do
      let g ← g.take c arg
      takeAll c false g rest

/-- The task of a command and what was read of it. -/
def Gathered.task (c : CommandName) (g : Gathered) : Except UsageError Task :=
  match g.operand with
  | none => .error .missingOperand
  | some text => .ok (match c with
    | .check => .check text
    | .run => .run text g.force g.untilStopped
    | .status => .status text (g.model.getD .m3141))

/-- Reads the arguments behind the name of a command. -/
def ofArguments (c : CommandName) (args : List String) : Except UsageError Task := do
  let g ← Gathered.empty.takeAll c false args
  g.task c

/-- What the first argument that is no command says. Help and the version may be asked
for in its place. -/
def refusal (arg : String) : UsageError :=
  match arg.toList with
  | '-' :: '-' :: text =>
    match optionText text with
    | ("help", none) => .helpAsked
    | ("version", none) => .versionAsked
    | ("help", some _) | ("version", some _) => .needlessValue
    | _ => .unknownArgument
  | '-' :: 'h' :: _ => .helpAsked
  | '-' :: 'V' :: _ => .versionAsked
  | '-' :: _ :: _ => .unknownArgument
  | _ => .unknownCommand

end Usage

/-- The task of arguments, without the name of the program. Two dashes may not stand in
front of a command. -/
def Task.ofArguments : List String → Except UsageError Task
  | [] => .error .nothingGiven
  | arg :: rest =>
    match Usage.CommandName.ofName? arg with
    | some c => Usage.ofArguments c rest
    | none =>
      if arg = "--" then
        match rest with
        | [] => .error .nothingGiven
        | next :: _ =>
          if (Usage.CommandName.ofName? next).isSome then .error .unknownArgument
          else .error .unknownCommand
      else .error (Usage.refusal arg)

end SwitchBench
