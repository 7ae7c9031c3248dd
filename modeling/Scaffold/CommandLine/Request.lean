import Scaffold.CommandLine.Arguments
import Scaffold.Path
import Scaffold.Text.Digits

/-!
# What the command line asks for

One of three commands, each about a project file: to generate its artifacts, to probe its
dependencies, or to show its tokens.
-/

set_option autoImplicit false

namespace Scaffold.CommandLine

/-- How dependencies are looked for. -/
structure ProbeOptions where
  overrides : List String
  isOffline : Bool
  /-- Seconds that each run of a tool may take. -/
  timeout : Option Nat
  deriving DecidableEq, Repr

/-- What is asked for. -/
inductive Request
  | generate (project : Path) (output templates : Option Path) (options : ProbeOptions)
  | probe (project : Path) (options : ProbeOptions)
  | tokens (project : Path) (type : Option String)
  deriving DecidableEq, Repr

/-- The command that an argument names. -/
inductive Verb
  | generate
  | probe
  | tokens
  | help
  deriving DecidableEq, Repr

namespace Verb

/-- The commands by name. -/
def names : List (String × Verb) :=
  [("generate", generate), ("probe", probe), ("tokens", tokens), ("help", help)]

/-- The command of a name. -/
def ofName? (name : String) : Option Verb :=
  (names.find? fun entry ↦ entry.1 == name).map (·.2)

end Verb

/-- The number of seconds that a text stands for. -/
def seconds? (text : String) : Option Nat :=
  Text.signedNumber? text.toList

namespace OptionForm

/-- How much is told about a run. -/
def verbose : OptionForm := ⟨"verbose", some 'v', .count⟩

/-- How the program is used. -/
def help : OptionForm := ⟨"help", some 'h', .help⟩

/-- Which version the program is. -/
def version : OptionForm := ⟨"version", some 'V', .version⟩

/-- The directory that artifacts are written to. -/
def output : OptionForm := ⟨"output", some 'o', .value fun text ↦ !text.isEmpty⟩

/-- The directory that templates are taken from. -/
def templates : OptionForm := ⟨"templates", none, .value fun text ↦ !text.isEmpty⟩

/-- How one dependency is looked for. -/
def override : OptionForm := ⟨"with", none, .values⟩

/-- No tool is run. -/
def offline : OptionForm := ⟨"offline", none, .flag⟩

/-- The seconds that each run of a tool may take. -/
def probeTimeout : OptionForm :=
  ⟨"probe-timeout", none, .value fun text ↦ (seconds? text).isSome⟩

/-- The type whose tokens are shown. -/
def type : OptionForm := ⟨"type", some 't', .value fun _ ↦ true⟩

/-- The options about looking for dependencies. -/
def probing : List OptionForm :=
  [override, offline, probeTimeout]

end OptionForm

namespace Verb

/-- The options of a command. -/
def forms : Verb → List OptionForm
  | generate => [.output, .templates] ++ OptionForm.probing ++ [.verbose, .help]
  | probe => OptionForm.probing ++ [.verbose, .help]
  | tokens => [.type, .verbose, .help]
  | help => []

/-- A command has one operand, the path of the project file. -/
def usage (verb : Verb) : Usage :=
  ⟨verb.forms, 1, fun text ↦ !text.isEmpty⟩

end Verb

namespace Request

/-- What stands before the command. -/
def mainUsage : Usage :=
  ⟨[.verbose, .help, .version], 0, fun _ ↦ false⟩

/-- The options about looking for dependencies that were given. -/
def probeOptions (given : Given) : ProbeOptions where
  overrides := given.values OptionForm.override.name
  isOffline := given.has OptionForm.offline.name
  timeout := (given.value? OptionForm.probeTimeout.name).bind seconds?

/-- What a command with these options and this operand asks for. -/
def ofGiven? (verb : Verb) (given : Given) (project : Path) : Option Request :=
  match verb with
  | .generate =>
    some (.generate project ((given.value? OptionForm.output.name).map Path.mk)
      ((given.value? OptionForm.templates.name).map Path.mk) (probeOptions given))
  | .probe => some (.probe project (probeOptions given))
  | .tokens => some (.tokens project (given.value? OptionForm.type.name))
  | .help => none

/-- Reads the names of commands after a call for help. -/
def readHelp : List String → Interruption
  | [] => .help
  | name :: rest =>
    match Verb.ofName? name with
    | none => .usage (.unknownCommand name)
    | some _ =>
      match rest with
      | [] => .help
      | other :: _ => .usage (.unknownCommand other)

/-- Reads the arguments of a command. -/
def readCommand (verb : Verb) (arguments : List String) : Except Interruption Request := do
  let given ← verb.usage.read (Given.empty, none) arguments
  match given.operands with
  | [] => throw (.usage (.missing "<CONFIG>"))
  | project :: _ =>
    match ofGiven? verb given ⟨project⟩ with
    | some request => return request
    | none => throw .help

/-- Reads arguments. -/
def parse (arguments : List String) : Except Interruption Request := do
  match ← mainUsage.readUntilOperand Given.empty arguments with
  | (_, none) => throw (.usage .noCommand)
  | (_, some (name, rest)) =>
    match Verb.ofName? name with
    | none => throw (.usage (.unknownCommand name))
    | some .help => throw (readHelp rest)
    | some verb => readCommand verb rest

end Request

end Scaffold.CommandLine
