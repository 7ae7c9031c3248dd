import Scaffold.Artifact.Run
import Scaffold.Project.Error
import Scaffold.Template.Directory

/-!
# What the command line prints

A failure is a message with the causes behind it. The findings of dependencies, the summary of a
generation run and the table of tokens are lines of text.
-/

set_option autoImplicit false

namespace Scaffold.CommandLine

/-- What a command fails with. -/
structure Failure where
  message : String
  causes : List String
  deriving DecidableEq, Repr

namespace Failure

/-- A failure of an override or of a type. -/
def ofProject (error : ProjectError) : Failure :=
  ⟨error.message, []⟩

/-- A failure to load a project. What cannot be read as a document has a further cause. -/
def ofLoad (error : LoadError) : Failure :=
  match error with
  | .invalid _ .invalidDocument =>
    ⟨error.message, [error.cause, "the document does not describe a project"]⟩
  | _ => ⟨error.message, [error.cause]⟩

/-- A failure to load a corpus. -/
def ofCorpus (error : CorpusError) : Failure :=
  ⟨error.message, error.cause?.toList⟩

/-- A failure of a probe. -/
def ofFault (fault : Fault) : Failure :=
  ⟨fault.message, []⟩

/-- A failure that stopped a generation run. -/
def ofRun (project : Project) (fault : Fault) : Failure :=
  ⟨"Generation of " ++ project.libraryName ++ " aborted", [fault.message]⟩

/-- A cause after its mark, with every later line of it as far in as the first. -/
def causeText (mark cause : String) : String :=
  mark ++ Text.joinWith ("\n" ++ Text.repeated ' ' mark.length) (Text.parts '\n' cause)

/-- The causes, numbered if there are several. -/
def causeLines : List String → List String
  | [] => []
  | [cause] => ["", "Caused by:", causeText "    " cause]
  | causes =>
    ["", "Caused by:"] ++ causes.zipIdx.map fun (cause, index) ↦
      causeText ("    " ++ toString index ++ ": ") cause

/-- The failure as it is shown. -/
def text (failure : Failure) : String :=
  Text.joinWith "\n" (("Error: " ++ failure.message) :: causeLines failure.causes) ++ "\n"

end Failure

/-- Lines of text. -/
def textOfLines (lines : List String) : String :=
  String.join (lines.map (· ++ "\n"))

/-- A list of flags under a title, if there are any. -/
def flagLines (title : String) (flags : List String) : List String :=
  if flags.isEmpty then [] else ["  " ++ title ++ " " ++ Text.joinWith " " flags]

/-- What was found for a dependency. -/
def findingLines (resolved : Resolved) : List String :=
  let finding := resolved.finding
  [resolved.dependency.libraryId ++ " " ++ finding.outcome.text] ++
    finding.definePairs.map (fun define ↦ "  define " ++ define) ++
    flagLines "cppflags" finding.cppflags ++ flagLines "ldflags" finding.ldflags ++
    (finding.source.map fun source ↦ "  source " ++ source.text).toList

/-- The tokens with their values, one under the other. -/
def tokenLines (table : TokenTable) : List String :=
  let width := (table.names.map String.utf8ByteSize).foldr max 0
  table.entries.map fun (name, value) ↦ Text.padded width name ++ "  " ++ value

/-- The last line of a summary. -/
def totalLine (report : Report) : String :=
  let count := toString report.written.length
  if report.isCancelled then "Cancelled after " ++ count ++ " artifact(s)"
  else if report.isSuccess then "Generated " ++ count ++ " artifact(s)"
  else
    "Generated " ++ count ++ " artifact(s), " ++ toString report.failures.length ++ " failed"

/-- The summary of a run that wrote below a directory, or that printed its artifacts. -/
def summaryLines (report : Report) (output : Option Path) : List String :=
  let shown := fun (path : Path) ↦
    match output with
    | some directory => directory.join path
    | none => path
  [""] ++
    report.dependencies.map (fun resolved ↦
      "  dependency " ++ resolved.dependency.name ++ " " ++ resolved.finding.outcome.text) ++
    report.written.map (fun (kind, path) ↦
      "  ✓ " ++ (shown path).text ++ " (" ++ kind.displayName ++ ")") ++
    report.failures.map (fun failure ↦ "  ✗ " ++ failure.unit ++ ": " ++ failure.fault.message) ++
    ["", totalLine report]

end Scaffold.CommandLine
