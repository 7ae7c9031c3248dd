import Scaffold.Artifact.Kind
import Scaffold.Dependency.Finding

/-!
# Artifacts

An artifact is a rendered text with a kind and a destination. `emit` puts rendered text together
with its destination, and gives a build macro a banner that records how its dependency was found.
`listing` is how artifacts are shown when they are not written to files.
-/

set_option autoImplicit false

namespace Scaffold

/-- A rendered text and where it goes. -/
structure Artifact where
  kind : ArtifactKind
  destination : Path
  contents : String
  deriving DecidableEq, Repr

namespace Artifact

/-- The banner of a build macro: the library, the outcome, and the macros it defines. -/
def banner (libraryId : String) (finding : Finding) : String :=
  "dnl Generated by yalgen: " ++ libraryId ++ " resolved as " ++ finding.outcome.text ++ "\n" ++
    String.join (finding.definePairs.map fun define ↦ "dnl   " ++ define ++ "\n") ++ "dnl\n"

/-- The artifact of a rendered text. -/
def emit (kind : ArtifactKind) (template rendered : String) (table : TokenTable)
    (finding : Option Finding) : Except Fault Artifact := do
  let destination ← kind.destination template table
  match kind, finding with
  | .buildMacro, some finding =>
    match table.find? "library_id" with
    | some libraryId => return ⟨kind, destination, banner libraryId finding ++ rendered⟩
    | none => throw (.unresolvedToken "library_id" template)
  | _, _ => return ⟨kind, destination, rendered⟩

/-- The width of a listing. -/
def listingWidth : Nat := 80

/-- The artifact under a heading with its destination. -/
def listing (artifact : Artifact) : String :=
  let rule := Text.repeated '-' listingWidth ++ "\n"
  rule ++ Text.centred listingWidth artifact.destination.text ++ "\n" ++ rule ++ "\n" ++
    artifact.contents

end Artifact

end Scaffold
