import Scaffold.Artifact.FileWriter
import Scaffold.CommandLine.Report
import Scaffold.CommandLine.Request
import Scaffold.Project.Override
import Scaffold.Project.Load
import Scaffold.Template.Directory
import Scaffold.Token.Resolution
import Scaffold.Toolchain.Machine

/-!
# Running commands

A command works on a machine with a compiler and a package tool. It leaves an exit code, what it
printed, what it reported, and the files: code 0 for success, 1 for a failure of the command or of
an artifact, 2 for arguments that cannot be read, 130 for a run that was cancelled.
-/

set_option autoImplicit false

namespace Scaffold.CommandLine

/-- What a command works on. -/
structure Workplace where
  machine : Machine
  compiler : String
  packageTool : String

/-- What a command leaves. -/
structure Result where
  code : Nat
  printed : String
  reported : String
  tree : FileTree
  deriving DecidableEq

namespace Workplace

/-- The seconds that each run of a tool may take unless told otherwise. -/
def defaultTimeout : Nat := 10

/-- The tools that dependencies are looked for with. -/
def tools (place : Workplace) (options : ProbeOptions) : Toolchain where
  compiler := place.compiler
  packageTool := place.packageTool
  timeLimit := options.timeout.getD defaultTimeout * 1000

/-- The answer to a question on the machine; without tools nothing is known. -/
def answer (place : Workplace) (options : ProbeOptions) (question : Question)
    (machine : Machine) : question.Answer × Machine :=
  if options.isOffline then (KnownAnswers.none.environment.answer question, machine)
  else machine.answer (place.tools options) question

/-- Loads a project. -/
def project (place : Workplace) (path : Path) : Except Failure Project :=
  (Project.load place.machine.tree place.machine.here path).mapError .ofLoad

/-- Loads a project and overrides how its dependencies are looked for. -/
def overriddenProject (place : Workplace) (path : Path) (options : ProbeOptions) :
    Except Failure Project := do
  let project ← place.project path
  (project.withArguments options.overrides).mapError .ofProject

/-- The corpus below a directory, or the built-in one. -/
def corpus (place : Workplace) (templates : Option Path) : Except Failure Corpus :=
  match templates with
  | some directory =>
    (Corpus.ofDirectory place.machine.tree place.machine.here directory).mapError .ofCorpus
  | none =>
    Corpus.builtin.mapError fun fault ↦ ⟨"Built-in templates are invalid", [fault.message]⟩

/-- Writes files below a directory, or prints artifacts one after the other. -/
def writer (output : Option Path) : Writer (Machine × String) where
  write artifact state :=
    let (machine, printed) := state
    match output with
    | some directory =>
      let files : FileWriter := ⟨machine.here, directory, FileTree.Refusals.none⟩
      let (outcome, tree) := files.write artifact machine.tree
      (outcome, { machine with tree }, printed)
    | none => (.ok (), machine, printed ++ artifact.listing)
  isCancelled _ := false

/-- The result of a command that changes no file. -/
def result (place : Workplace) (code : Nat) (printed reported : String) : Result :=
  ⟨code, printed, reported, place.machine.tree⟩

/-- The result of a command that failed. -/
def failed (place : Workplace) (printed : String) (failure : Failure) : Result :=
  place.result 1 printed failure.text

/-- The exit code of a generation run. -/
def exitCode (report : Report) : Nat :=
  if report.isCancelled then 130 else if report.isSuccess then 0 else 1

/-- Generates the artifacts of a project over a corpus. -/
def generate (place : Workplace) (project : Project) (corpus : Corpus) (output : Option Path)
    (options : ProbeOptions) : Result :=
  let answer := fun question (state : Machine × String) ↦
    let (answer, machine) := place.answer options question state.1
    (answer, machine, state.2)
  match project.generate corpus answer (writer output) Prober.empty (place.machine, "") with
  | (.ok report, _, (machine, printed)) =>
    ⟨exitCode report, printed, textOfLines (summaryLines report output), machine.tree⟩
  | (.error fault, _, (machine, printed)) =>
    ⟨1, printed, (Failure.ofRun project fault).text, machine.tree⟩

/-- Probes the dependencies of a project and prints what was found, up to the first failure. -/
def probe (place : Workplace) (project : Project) (options : ProbeOptions) : Result :=
  let inquiry := Prober.empty.probeUntil project.dependencies
  let ((resolved, fault?, _), machine) := inquiry.run (place.answer options) place.machine
  let printed := textOfLines (resolved.flatMap findingLines)
  match fault? with
  | some fault => ⟨1, printed, (Failure.ofFault fault).text, machine.tree⟩
  | none => ⟨0, printed, "", machine.tree⟩

/-- The tokens to start from: those of the library, or of one of its types. -/
def baseTokens (project : Project) (type : Option String) : Except Failure TokenTable :=
  match type with
  | none => .ok project.libraryTokens
  | some name =>
    match project.findType? name with
    | some entry => .ok (project.typeTokens entry)
    | none => .error (.ofProject (.unknownType name (project.types.map (·.name))))

/-- Carries out a request. -/
def carryOut (place : Workplace) (request : Request) : Except Failure Result :=
  match request with
  | .generate path output templates options => do
    let project ← place.overriddenProject path options
    let corpus ← place.corpus templates
    return place.generate project corpus output options
  | .probe path options => do
    let project ← place.overriddenProject path options
    return place.probe project options
  | .tokens path type => do
    let project ← place.project path
    let base ← baseTokens project type
    return place.result 0 (textOfLines (tokenLines (Token.resolveAvailable base))) ""

/-- How the program is used. -/
def helpText : String :=
  textOfLines
    ["CLI for scaffolding yal-family library sources", "", "Usage: yalgen [OPTIONS] <COMMAND>", "",
      "Commands:", "  generate  Render every artifact of a project",
      "  probe     Resolve the project's dependencies and print the outcome",
      "  tokens    Print the tokens available to templates",
      "  help      Print this message or the help of the given subcommand(s)", "", "Options:",
      "  -v, --verbose...  Increase log verbosity (-v info, -vv debug); RUST_LOG takes precedence",
      "  -h, --help        Print help", "  -V, --version     Print version"]

/-- The version of the program. -/
def versionText : String := "yalgen 0.1.1\n"

/-- Runs the command that the arguments ask for. -/
def run (place : Workplace) (arguments : List String) : Result :=
  match Request.parse arguments with
  | .error .help => place.result 0 helpText ""
  | .error .version => place.result 0 versionText ""
  | .error (.usage error) => place.result 2 "" ("error: " ++ error.message ++ "\n")
  | .ok request =>
    match place.carryOut request with
    | .ok result => result
    | .error failure => place.failed "" failure

end Workplace

end Scaffold.CommandLine
