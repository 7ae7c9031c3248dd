import Scaffold.Dependency.Basic
import Scaffold.Record

/-!
# Stored dependencies

A dependency is stored as a record of texts. `toRecord` leaves out what is not set, `ofEntries?`
gives missing fields their defaults, and `ofStored?` also accepts the values in a fixed order.
-/

set_option autoImplicit false

namespace Scaffold.Dependency

/-- The fields of a stored dependency, with the unset ones left out. -/
def toRecord (dependency : Dependency) : List (String × String) :=
  [("name", dependency.name), ("min_version", dependency.minVersion)] ++
    (dependency.headerName.map fun header ↦ ("header", header)).toList ++
    (dependency.symbolName.map fun symbol ↦ ("symbol", symbol)).toList ++
    [("override", dependency.override.text)] ++
    (dependency.localPath.map fun path ↦ ("local_path", path)).toList

variable {ν : Type} [Stored ν]

/-- Reads the fields of a stored dependency; fields of other names carry no meaning. -/
def ofEntries? (entries : Entries ν) : Option Dependency := do
  return {
    name := ← entries.field? "name" Stored.text? none
    minVersion := ← entries.field? "min_version" Stored.text? none
    headerName := ← entries.field? "header" Stored.optionalText? (some none)
    symbolName := ← entries.field? "symbol" Stored.optionalText? (some none)
    override := Override.parse (← entries.field? "override" Stored.text? (some ""))
    localPath := ← entries.field? "local_path" Stored.optionalText? (some none) }

/-- The order of the values in a list that stands for a dependency. -/
def fieldOrder : List String :=
  ["name", "min_version", "header", "symbol", "override", "local_path"]

/-- Reads a stored dependency: a record, or a list of values in the fixed order whose tail may be
missing. -/
def ofStored? (value : ν) : Option Dependency :=
  match Stored.shape value with
  | .fields entries => ofEntries? entries
  | .list items =>
    if items.length ≤ fieldOrder.length then ofEntries? (fieldOrder.zip items) else none
  | _ => none

end Scaffold.Dependency
