import Scaffold.Dependency.Stored
import Scaffold.Files.Lookup
import Scaffold.Project.Basic
import Scaffold.Yaml.Node

/-!
# Loading projects

A project is described by a document with the sections `project`, `library`, `python_module` and
`dependencies`, of which only `library` must be there. `ofText` reads and validates it. A document
whose aliases would have to be followed too often (`outline`) is refused. `load` reads the document
from a file; its error names the path as it was given.
-/

set_option autoImplicit false

namespace Scaffold

namespace Project

section Sections

variable {ν : Type} [Stored ν]

/-- Reads a type of the library. -/
def readType? (value : ν) : Option TypeEntry := do
  let entries ← Stored.entries? value
  return {
    name := ← entries.field? "name" Stored.text? none
    valueName := ← entries.field? "value_name" Stored.text? (some defaultValueName) }

/-- Reads a dependency. -/
def readDependency? (value : ν) : Option Dependency := do
  Dependency.ofEntries? (← Stored.entries? value)

/-- Reads the authors and the copyright years. -/
def readPeople? (value : ν) : Option (List String × String) := do
  let entries ← Stored.entries? value
  return (← entries.field? "authors" (Stored.items? Stored.text?) (some []),
    ← entries.field? "copyright" Stored.text? (some ""))

/-- Reads the name, the description and the types of the library. -/
def readLibrary? (value : ν) : Option (String × String × List TypeEntry) := do
  let entries ← Stored.entries? value
  return (← entries.field? "name" Stored.text? none,
    ← entries.field? "description" Stored.text? (some ""),
    ← entries.field? "types" (Stored.items? readType?) (some []))

/-- Reads the name of the binding module. -/
def readModule? (value : ν) : Option String := do
  Entries.field? (← Stored.entries? value) "name" Stored.text? none

/-- Reads the sections of a project. -/
def ofStored? (value : ν) : Option Project := do
  let entries ← Stored.entries? value
  let (authors, copyright) ← entries.field? "project" readPeople? (some ([], ""))
  let (libraryName, description, types) ← entries.field? "library" readLibrary? none
  let moduleName ←
    entries.field? "python_module" (Stored.optional? readModule?) (some none)
  let dependencies ←
    entries.field? "dependencies" (Stored.items? readDependency?) (some [])
  return { authors, copyright, libraryName, description, types, moduleName, dependencies }

end Sections

/-- What `ofStored?` looks at. -/
def outline : Yaml.Outline :=
  let texts (names : List String) : Yaml.Outline := .record (names.map fun name ↦ (name, .text))
  .record [
    ("project", .record [("authors", .items .text), ("copyright", .text)]),
    ("library", .record [("name", .text), ("description", .text),
      ("types", .items (texts ["name", "value_name"]))]),
    ("python_module", texts ["name"]),
    ("dependencies", .items (texts Dependency.fieldOrder))]

/-- Reads the project that a document describes. -/
def ofDocument? (document : Yaml.Document) : Option Project :=
  if document.isModest outline then ofStored? document.root else none

/-- Reads a project from the text of its document. -/
def ofText (text : String) : Except ProjectError Project := do
  match (Yaml.Document.ofText? text).bind ofDocument? with
  | none => throw .invalidDocument
  | some project =>
    project.validate
    return project

end Project

end Scaffold

namespace Scaffold.Project

/-- The project in a file. -/
def load (tree : FileTree) (here : Location) (path : Path) : Except LoadError Project :=
  match tree.readText here path with
  | .error cause => .error (.unreadable path cause)
  | .ok text => (ofText text).mapError (.invalid path)

end Scaffold.Project
