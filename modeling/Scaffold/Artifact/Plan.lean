import Scaffold.Artifact.Basic
import Scaffold.Dependency.Decision
import Scaffold.Project.Basic
import Scaffold.Template.Corpus

/-!
# Planning artifacts

The units of a project are what there is to produce: one for each library source and header stub
template, one for each type if the corpus tests types, and one for each dependency and macro
template. A plan is a unit with its destination. No two units may have the same destination, and
plans are ordered by destination.

`Plan.render` renders the templates of a plan one after the other. Plans may be rendered in any
order: `inPlanOrder` puts what has finished back into the order of the plans.
-/

set_option autoImplicit false

namespace Scaffold

/-- One artifact to be produced. -/
structure ArtifactUnit where
  kind : ArtifactKind
  templates : List Template
  base : TokenTable
  finding : Option Finding
  deriving DecidableEq

/-- A unit with its destination. -/
structure Plan extends ArtifactUnit where
  destination : Path
  deriving DecidableEq

/-- A unit that cannot be produced, under its destination or else under its template. -/
structure UnitFailure where
  unit : String
  fault : Fault
  deriving DecidableEq, Repr

/-- The plans of a project, and the units without a destination. -/
structure Planning where
  plans : List Plan
  failures : List UnitFailure
  deriving DecidableEq

namespace Project

/-- One unit for each template of a kind. -/
def templateUnits (project : Project) (corpus : Corpus) (kind : ArtifactKind) :
    List ArtifactUnit :=
  (corpus.ofKind kind).map fun template ↦ ⟨kind, [template], project.libraryTokens, none⟩

/-- One unit for each type, if the corpus has any template for type tests. -/
def typeUnits (project : Project) (corpus : Corpus) : Except Fault (List ArtifactUnit) :=
  if (corpus.ofKind .testSource).isEmpty then .ok []
  else corpus.typeTestSections.map fun sections ↦
    project.types.map fun type ↦ ⟨.testSource, sections, project.typeTokens type, none⟩

/-- One unit for each macro template, for a resolved dependency. -/
def dependencyUnits (project : Project) (corpus : Corpus) (resolved : Resolved) :
    Except Fault (List ArtifactUnit) := do
  let base ← project.libraryTokens.merged (resolved.finding.tokens resolved.dependency)
  return (corpus.ofKind .buildMacro).map fun template ↦
    ⟨.buildMacro, [template], base, some resolved.finding⟩

/-- The units of every resolved dependency. -/
def macroUnits (project : Project) (corpus : Corpus) :
    List Resolved → Except Fault (List ArtifactUnit)
  | [] => .ok []
  | resolved :: rest => do
    let units ← project.dependencyUnits corpus resolved
    return units ++ (← macroUnits project corpus rest)

/-- Every unit of a project. -/
def units (project : Project) (corpus : Corpus) (resolved : List Resolved) :
    Except Fault (List ArtifactUnit) := do
  let types ← project.typeUnits corpus
  let macros ← project.macroUnits corpus resolved
  return project.templateUnits corpus .librarySource ++
    project.templateUnits corpus .headerStub ++ types ++ macros

end Project

namespace ArtifactUnit

/-- The destination of a unit whose first template has this name. -/
def destination (unit : ArtifactUnit) (template : String) : Except Fault Path := do
  let table ← Token.resolve unit.base unit.kind.destinationTokens template
  unit.kind.destination template table

/-- Gives each unit its destination. `taken` are the destinations given before. -/
def place : (taken : List Path) → List ArtifactUnit → Except Fault Planning
  | _, [] => .ok ⟨[], []⟩
  | taken, unit :: rest =>
    match unit.templates with
    | [] => place taken rest
    | first :: _ =>
      match unit.destination first.name with
      | .ok destination =>
        if taken.any destination.same then .error (.duplicateDestination destination)
        else (place (destination :: taken) rest).map fun planning ↦
          { planning with plans := { unit with destination } :: planning.plans }
      | .error fault => (place taken rest).map fun planning ↦
          { planning with failures := ⟨first.name, fault⟩ :: planning.failures }

end ArtifactUnit

namespace Planning

/-- The planning with its plans in the order of their destinations. -/
def sorted (planning : Planning) : Planning :=
  { planning with
    plans := planning.plans.mergeSort fun first second ↦
      first.destination.atMost second.destination }

end Planning

/-- The plans of a project over a corpus, with its dependencies resolved. -/
def Project.plan (project : Project) (corpus : Corpus) (resolved : List Resolved) :
    Except Fault Planning := do
  let units ← project.units corpus resolved
  return (← ArtifactUnit.place [] units).sorted

namespace Plan

/-- The templates rendered one after the other. -/
def renderTemplates (base : TokenTable) : List Template → Except Fault String
  | [] => .ok ""
  | template :: rest => do
    let text ← template.render (← template.resolveTemplate base)
    return text ++ (← renderTemplates base rest)

/-- The artifact of a plan. -/
def render (plan : Plan) : Except Fault Artifact :=
  match plan.templates with
  | [] => .error (.missingTemplate plan.destination.text)
  | first :: _ => do
    let text ← renderTemplates plan.base plan.templates
    let table ← Token.resolve plan.base plan.kind.destinationTokens first.name
    Artifact.emit plan.kind first.name text table plan.finding

/-- The rendering of each plan, numbered in plan order. -/
def tasks (plans : List Plan) : List (Nat × (Path × Except Fault Artifact)) :=
  plans.zipIdx.map fun (plan, index) ↦ (index, (plan.destination, plan.render))

/-- Numbered results in the order of their numbers. -/
def inPlanOrder {α : Type} (finished : List (Nat × α)) : List α :=
  (finished.mergeSort fun first second ↦ first.1 ≤ second.1).map (·.2)

/-- The rendering of each plan with its destination, in plan order. -/
def renderAll (plans : List Plan) : List (Path × Except Fault Artifact) :=
  inPlanOrder (tasks plans)

end Plan

end Scaffold
