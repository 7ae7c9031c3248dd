import Scaffold.Dependency.Environment
import Scaffold.Dependency.Finding
import Scaffold.Version

/-!
# Deciding how a dependency is satisfied

`decision` goes through the stages in a fixed order and stops at the first that concludes: the
override, the package database, a header and a symbol that can be linked, the bundled copy. A
required dependency never falls back to the bundled copy.

A `Prober` remembers what was found, by name; only what was found is remembered, so a dependency
that failed is decided afresh.
-/

set_option autoImplicit false

namespace Scaffold

namespace Dependency

/-- The linker flag of the library. -/
def linkFlag (dependency : Dependency) : String :=
  "-l" ++ dependency.linkName

/-- The header can be included and the symbol can be linked. -/
def isUsable (dependency : Dependency) (cppflags ldflags : List String) : Inquiry Bool := do
  if ← Inquiry.askHeader dependency.header cppflags then
    let check ← Inquiry.askLink dependency.symbol (ldflags ++ [dependency.linkFlag])
    return check == .linked
  else
    return false

/-- Looks for an installation below a path. -/
def decidePath (dependency : Dependency) (path : Path) : Inquiry (Except Fault Finding) := do
  if ← Inquiry.askPath path then
    let cppflags := ["-I" ++ (path.join ⟨"include"⟩).text]
    let ldflags := ["-L" ++ (path.join ⟨"lib"⟩).text]
    if ← dependency.isUsable cppflags ldflags then
      return .ok (.new dependency .systemManual cppflags (ldflags ++ [dependency.linkFlag])
        (some path))
    else
      return .error (.overrideUnusable dependency.name path)
  else
    return .error (.pathNotFound dependency.name path)

/-- Asks the package database for a version that is new enough. -/
def decidePackage (dependency : Dependency) : Inquiry (Option Finding) := do
  match ← Inquiry.askPackage dependency.libraryId with
  | .found version cflags libs =>
    if Version.meetsMinimum version dependency.minVersion then
      return some (.new dependency .systemPackage cflags libs none)
    else
      return none
  | .notFound => return none
  | .unavailable => return none

/-- Looks for the library where the compiler looks. -/
def decideManual (dependency : Dependency) : Inquiry (Option Finding) := do
  if ← dependency.isUsable [] [] then
    return some (.new dependency .systemManual [] [dependency.linkFlag] none)
  else
    return none

/-- The bundled copy, or none. -/
def fallback (dependency : Dependency) : Finding :=
  match dependency.localCopy? with
  | some path =>
    .new dependency .localFallback ["-I" ++ path.text]
      [(path.join ⟨dependency.libraryId ++ ".la"⟩).text] (some path)
  | none => .new dependency .absent [] [] none

/-- Looks for the library on the system, and falls back to the bundled copy unless the library is
required there. -/
def decideSystem (dependency : Dependency) (isRequired : Bool) :
    Inquiry (Except Fault Finding) := do
  match ← dependency.decidePackage with
  | some finding => return .ok finding
  | none =>
    match ← dependency.decideManual with
    | some finding => return .ok finding
    | none =>
      if isRequired then return .error (.requiredMissing dependency.name)
      else return .ok dependency.fallback

/-- Decides how a dependency is satisfied. -/
def decision (dependency : Dependency) : Inquiry (Except Fault Finding) :=
  match dependency.override with
  | .path path => dependency.decidePath path
  | .disabled => pure (.ok (.new dependency .disabled [] [] none))
  | .auto => dependency.decideSystem false
  | .required => dependency.decideSystem true

end Dependency

/-- What was found so far, by the name of the dependency. -/
structure Prober where
  found : Table Finding
  deriving DecidableEq

/-- A dependency with what was found for it. -/
structure Resolved where
  dependency : Dependency
  finding : Finding
  deriving DecidableEq

namespace Prober

/-- Nothing was found yet. -/
def empty : Prober :=
  ⟨Table.empty⟩

/-- What was found for a name. -/
def cached? (prober : Prober) (name : String) : Option Finding :=
  prober.found.find? name

/-- What was found for the name of a dependency, or a fresh decision, which is remembered if it
found anything. -/
def probe (prober : Prober) (dependency : Dependency) :
    Inquiry (Except Fault Finding × Prober) :=
  match prober.cached? dependency.name with
  | some finding => pure (.ok finding, prober)
  | none => do
    match ← dependency.decision with
    | .ok finding => return (.ok finding, ⟨prober.found.insert dependency.name finding⟩)
    | .error fault => return (.error fault, prober)

/-- Probes dependencies from left to right up to the first that fails: those found before it, its
error, and the prober then. -/
def probeUntil (prober : Prober) :
    List Dependency → Inquiry (List Resolved × Option Fault × Prober)
  | [] => pure ([], none, prober)
  | dependency :: rest => do
    match ← prober.probe dependency with
    | (.error fault, prober) => return ([], some fault, prober)
    | (.ok finding, prober) =>
      let (resolved, fault, prober) ← probeUntil prober rest
      return (⟨dependency, finding⟩ :: resolved, fault, prober)

/-- Probes every dependency, or fails with the first that fails. -/
def probeAll (prober : Prober) :
    List Dependency → Inquiry (Except Fault (List Resolved) × Prober)
  | [] => pure (.ok [], prober)
  | dependency :: rest => do
    match ← prober.probe dependency with
    | (.error fault, prober) => return (.error fault, prober)
    | (.ok finding, prober) =>
      let (outcome, prober) ← probeAll prober rest
      return (outcome.map (⟨dependency, finding⟩ :: ·), prober)

end Prober

end Scaffold
