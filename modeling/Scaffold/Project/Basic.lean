import Scaffold.Dependency.Basic
import Scaffold.Project.Error
import Scaffold.Token.Table

/-!
# Projects

A project describes the library to be scaffolded: its name, the types it exports, and the
dependencies it has. From it come the tokens that every template of the library may use
(`libraryTokens`) and those for one type (`typeTokens`).

Names of a project end up in identifiers and in destinations, so they hold letters, digits and
underscores alone and start with no digit. The library and its types have a name, and neither a type
nor a dependency is listed twice. `validate` reports the first fault in a fixed order: the library,
the module, the types, the dependencies.
-/

set_option autoImplicit false

namespace Scaffold

/-- A type that the library exports, with the name of the values it holds. -/
structure TypeEntry where
  name : String
  valueName : String
  deriving DecidableEq, Repr

/-- A project. -/
structure Project where
  authors : List String
  copyright : String
  libraryName : String
  description : String
  types : List TypeEntry
  moduleName : Option String
  dependencies : List Dependency
  deriving DecidableEq, Repr

namespace Project

/-- The name of the values of a type that gives none. -/
def defaultValueName : String := "value"

/-- The tokens that describe the library. -/
def libraryTokens (project : Project) : TokenTable :=
  Table.ofList <|
    [("authors", Text.joinWith ", " project.authors), ("copyright", project.copyright),
      ("library_name", project.libraryName), ("library_description", project.description)] ++
    (project.moduleName.map fun name ↦ ("python_module_name", name)).toList

/-- The tokens that describe a type of the library. -/
def typeTokens (project : Project) (type : TypeEntry) : TokenTable :=
  (project.libraryTokens.insert "type_name" type.name).insert "value_name" type.valueName

/-- The type of a name. -/
def findType? (project : Project) (name : String) : Option TypeEntry :=
  project.types.find? fun type ↦ type.name == name

/-! ### Valid projects -/

/-- A text without a character that an identifier cannot hold there. -/
def isIdentifierText (text : String) : Bool :=
  (text.toList.all fun c ↦ c.isAlphanum || c == '_') && !text.toList.head?.any Char.isDigit

/-- The text is empty, blanks aside. -/
def isNameless (name : String) : Bool :=
  (Text.trim name).isEmpty

/-- Refuses a name that is no text of an identifier. -/
def checkName (role : NameRole) (name : String) : Except ProjectError Unit :=
  if isIdentifierText name then .ok () else .error (.invalidName role name)

/-- Checks types, none of which may have the name of one seen before. -/
def checkTypes : (seen : List String) → List TypeEntry → Except ProjectError Unit
  | _, [] => .ok ()
  | seen, type :: rest => do
    if isNameless type.name then throw .namelessType
    checkName .type type.name
    checkName .value type.valueName
    if seen.contains type.name then throw (.repeatedType type.name)
    checkTypes (type.name :: seen) rest

/-- Checks dependencies, none of which may have the name of one seen before. -/
def checkDependencies : (seen : List String) → List Dependency → Except ProjectError Unit
  | _, [] => .ok ()
  | seen, dependency :: rest => do
    checkName .dependency dependency.name
    if seen.contains dependency.name then throw (.repeatedDependency dependency.name)
    checkDependencies (dependency.name :: seen) rest

/-- Reports the first fault of a project. -/
def validate (project : Project) : Except ProjectError Unit := do
  if isNameless project.libraryName then throw .emptyLibraryName
  checkName .library project.libraryName
  match project.moduleName with
  | some name => checkName .module name
  | none => pure ()
  checkTypes [] project.types
  checkDependencies [] project.dependencies

end Project

end Scaffold
