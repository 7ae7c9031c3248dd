import Scaffold.Artifact.Run
import Scaffold.Files.Change

/-!
# Writing artifacts to files

A file writer puts each artifact in place below an output directory, whole or not at all. A failure
names the path of the artifact seen from where the output directory was named.
-/

set_option autoImplicit false

namespace Scaffold

/-- Where artifacts are written: below `output`, seen from the directory `here`. -/
structure FileWriter where
  here : Location
  output : Path
  refusals : FileTree.Refusals

namespace FileWriter

/-- The path of an artifact. -/
def path (writer : FileWriter) (artifact : Artifact) : Path :=
  writer.output.join artifact.destination

/-- Writes an artifact. -/
def write (writer : FileWriter) (artifact : Artifact) (tree : FileTree) :
    Except Fault Unit × FileTree :=
  let path := writer.path artifact
  let (outcome, tree) :=
    tree.writeWhole writer.refusals writer.here path (Text.Utf8.encode artifact.contents)
  (outcome.mapError (Fault.writeFailure path), tree)

end FileWriter

end Scaffold
