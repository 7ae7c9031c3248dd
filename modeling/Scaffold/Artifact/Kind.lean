import Scaffold.Template.Render

/-!
# Kinds of artifacts

The kind of an artifact decides in which directory of a corpus its templates lie, and where the
artifact goes: `destination` is a template pattern that holds the file name of the template with its
dollars doubled, so no file name can place a placeholder in it.
-/

set_option autoImplicit false

namespace Scaffold

/-- What an artifact is. -/
inductive ArtifactKind
  | librarySource
  | headerStub
  | testSource
  | buildMacro
  deriving DecidableEq, Repr

namespace ArtifactKind

/-- Every kind. -/
def all : List ArtifactKind :=
  [librarySource, headerStub, testSource, buildMacro]

theorem mem_all (kind : ArtifactKind) : kind ∈ all := by
  cases kind <;> decide

/-- The corpus directory of the templates of a kind. -/
def directory : ArtifactKind → String
  | librarySource => "libyal"
  | headerStub => "pyyal"
  | testSource => "yal_test_type"
  | buildMacro => "m4"

/-- The name of a kind in reports. -/
def displayName : ArtifactKind → String
  | librarySource => "library source"
  | headerStub => "header stub"
  | testSource => "test source"
  | buildMacro => "build macro"

/-- The kind of the templates below the first directory of a corpus name. -/
def ofName? (name : String) : Option ArtifactKind :=
  match Text.cutAt? '/' name with
  | some (first, _) => all.find? fun kind ↦ kind.directory == first
  | none => none

/-- The tokens that the destination of a kind is built from. -/
def destinationTokens : ArtifactKind → List String
  | librarySource => ["library_name"]
  | headerStub => ["python_module_name"]
  | testSource => ["library_name_suffix", "type_name"]
  | buildMacro => ["library_id"]

/-- The destination of a kind as a list of segments, for a template of that name. -/
def destinationSegments (kind : ArtifactKind) (template : String) : List Segment :=
  let file := Text.afterLast '/' template
  match kind with
  | librarySource =>
    [.placeholder "library_name", .literal "/", .placeholder "library_name",
      .literal ("_" ++ Text.dropStem "libyal_" file)]
  | headerStub =>
    [.placeholder "python_module_name", .literal "/", .placeholder "python_module_name",
      .literal ("_" ++ Text.dropStem "pyyal_" file)]
  | testSource =>
    [.literal "tests/", .placeholder "library_name_suffix", .literal "_test_",
      .placeholder "type_name", .literal ".c"]
  | buildMacro => [.literal "m4/", .placeholder "library_id", .literal ".m4"]

/-- Where the artifact rendered from a template goes. -/
def destination (kind : ArtifactKind) (template : String) (table : TokenTable) :
    Except Fault Path :=
  (Template.renderBody template (Segment.print (kind.destinationSegments template)) table).map
    Path.mk

end ArtifactKind

end Scaffold
