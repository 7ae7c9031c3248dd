import Scaffold.Project.Basic
import Scaffold.Project.Error

/-!
# Overriding dependencies

An override names a dependency by its name or by its library name, and replaces how the first such
dependency is looked for. Overrides are applied from left to right up to the first without a target.
-/

set_option autoImplicit false

namespace Scaffold

/-- An override with the name it is meant for. -/
structure NamedOverride where
  name : String
  override : Override
  deriving DecidableEq, Repr

namespace NamedOverride

/-- Reads an argument `NAME=VALUE`. -/
def parse (argument : String) : Except ProjectError NamedOverride :=
  match Text.cutAt? '=' argument with
  | none => .error (.noAssignment argument)
  | some (name, value) =>
    let trimmed := Text.trim name
    if trimmed.isEmpty then .error (.noDependencyName argument)
    else .ok ⟨trimmed, Override.parse value⟩

/-- The dependency is one that the name may stand for. -/
def targets (named : NamedOverride) (dependency : Dependency) : Bool :=
  dependency.name == named.name || dependency.libraryId == named.name

/-- The dependencies with the first target overridden, if there is one. -/
def retarget? (named : NamedOverride) : List Dependency → Option (List Dependency)
  | [] => none
  | dependency :: rest =>
    if named.targets dependency then some (dependency.withOverride named.override :: rest)
    else (named.retarget? rest).map (dependency :: ·)

end NamedOverride

namespace Project

/-- Applies overrides from left to right. What was applied before an override without a target
stays. -/
def applyOverrides (project : Project) : List NamedOverride → Project × Except ProjectError Unit
  | [] => (project, .ok ())
  | named :: rest =>
    match named.retarget? project.dependencies with
    | some dependencies => ({ project with dependencies }).applyOverrides rest
    | none =>
      (project, .error (.unknownDependency named.name (project.dependencies.map (·.name))))

/-- The project with overrides given as arguments; all of them are read before any is applied. -/
def withArguments (project : Project) (arguments : List String) :
    Except ProjectError Project := do
  let overrides ← arguments.mapM NamedOverride.parse
  let (overridden, outcome) := project.applyOverrides overrides
  outcome.map fun _ ↦ overridden

end Project

end Scaffold
