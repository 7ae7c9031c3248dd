import Scaffold.Fault

/-!
# Errors about projects

What can be wrong with the description of a project, with an override argument, and with the file
that holds the description.
-/

set_option autoImplicit false

namespace Scaffold

/-- Where in a project a name stands. -/
inductive NameRole
  | library
  | module
  | type
  | value
  | dependency
  deriving DecidableEq, Repr

/-- How a place for a name is called. -/
def NameRole.text : NameRole → String
  | library => "library.name"
  | module => "python_module.name"
  | type => "Type name"
  | value => "value_name"
  | dependency => "Dependency name"

/-- An error about a project. -/
inductive ProjectError
  | invalidDocument
  | emptyLibraryName
  | invalidName (role : NameRole) (name : String)
  | namelessType
  | repeatedType (name : String)
  | repeatedDependency (name : String)
  | unknownDependency (name : String) (available : List String)
  | unknownType (name : String) (available : List String)
  | noAssignment (argument : String)
  | noDependencyName (argument : String)
  deriving DecidableEq, Repr

/-- The error as it is shown. -/
def ProjectError.message : ProjectError → String
  | invalidDocument => "Invalid project configuration"
  | emptyLibraryName => "library.name must not be empty"
  | invalidName role name =>
    role.text ++ " '" ++ name ++
      "' must contain only letters, digits and '_' and not start with a digit"
  | namelessType => "library.types entries need a name"
  | repeatedType name => "Type '" ++ name ++ "' is listed more than once"
  | repeatedDependency name => "Dependency '" ++ name ++ "' is listed more than once"
  | unknownDependency name available =>
    "Dependency '" ++ name ++ "' not found. Available dependencies: " ++
      Text.joinWith ", " available
  | unknownType name available =>
    "Type '" ++ name ++ "' not found. Available types: " ++ Text.joinWith ", " available
  | noAssignment argument => "Expected NAME=VALUE, got '" ++ argument ++ "'"
  | noDependencyName argument => "Missing dependency name in '" ++ argument ++ "'"

/-- An error about the file that holds a project. -/
inductive LoadError
  | unreadable (path : Path) (cause : SystemError)
  | invalid (path : Path) (cause : ProjectError)
  deriving DecidableEq, Repr

/-- The error as it is shown, its cause aside. -/
def LoadError.message : LoadError → String
  | unreadable path _ => "Failed to read " ++ path.text
  | invalid path _ => "Failed to parse " ++ path.text

/-- The text of the cause. -/
def LoadError.cause : LoadError → String
  | unreadable _ cause => cause.message
  | invalid _ cause => cause.message

end Scaffold
