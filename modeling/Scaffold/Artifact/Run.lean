import Scaffold.Artifact.Plan

/-!
# Generation runs

A run probes the dependencies, plans the artifacts, renders them, and hands each rendered artifact
to a writer, in plan order. A failed artifact is reported and the run goes on. Before each artifact
the run looks whether it was cancelled, and then stops; a write that has begun always ends.

The writer acts on a state of the caller's choice, and whether the run is cancelled is read off that
state. The answers to the questions may act on the same state (`Project.generate`); where they do
not, the run is what was prepared in that environment, written (`Project.generate_of_environment`).
-/

set_option autoImplicit false

namespace Scaffold

/-- How artifacts are written, and when a run stops early. -/
structure Writer (σ : Type) where
  write : Artifact → σ → Except Fault Unit × σ
  isCancelled : σ → Bool

/-- What became of the artifacts. -/
structure WriteLog where
  written : List (ArtifactKind × Path)
  failures : List UnitFailure
  isCancelled : Bool
  deriving DecidableEq

/-- What a run did. -/
structure Report extends WriteLog where
  dependencies : List Resolved
  deriving DecidableEq

namespace Report

/-- Every planned artifact was written. -/
def isSuccess (report : Report) : Bool :=
  report.failures.isEmpty && !report.isCancelled

end Report

namespace Writer

variable {σ : Type}

/-- Writes an artifact if it was rendered, and gives its kind. -/
def writeRendered (writer : Writer σ) (rendered : Except Fault Artifact) (state : σ) :
    Except Fault ArtifactKind × σ :=
  match rendered with
  | .error fault => (.error fault, state)
  | .ok artifact =>
    let (outcome, state) := writer.write artifact state
    (outcome.map fun _ ↦ artifact.kind, state)

/-- Writes artifacts from left to right until the run is cancelled. -/
def writeAll (writer : Writer σ) : List (Path × Except Fault Artifact) → σ → WriteLog × σ
  | [], state => (⟨[], [], false⟩, state)
  | (destination, rendered) :: rest, state =>
    if writer.isCancelled state then (⟨[], [], true⟩, state)
    else
      let (outcome, state) := writer.writeRendered rendered state
      let (log, state) := writer.writeAll rest state
      match outcome with
      | .ok kind => ({ log with written := (kind, destination) :: log.written }, state)
      | .error fault =>
        ({ log with failures := ⟨destination.text, fault⟩ :: log.failures }, state)

end Writer

/-- What there is to write once the dependencies are probed. -/
structure Prepared where
  dependencies : List Resolved
  planning : Planning

namespace Project

/-- Probes the dependencies and plans the artifacts over a corpus. -/
def prepare (project : Project) (corpus : Corpus) (prober : Prober) :
    Inquiry (Except Fault Prepared × Prober) := do
  let (outcome, prober) ← prober.probeAll project.dependencies
  let prepared := do
    let dependencies ← outcome
    return ⟨dependencies, ← project.plan corpus dependencies⟩
  return (prepared, prober)

end Project

namespace Prepared

variable {σ : Type}

/-- Renders the planned artifacts and writes them. -/
def produce (prepared : Prepared) (writer : Writer σ) (state : σ) : Report × σ :=
  let (log, state) := writer.writeAll (Plan.renderAll prepared.planning.plans) state
  let failures := prepared.planning.failures ++ log.failures
  (⟨{ log with failures }, prepared.dependencies⟩, state)

end Prepared

/-- The full run over a corpus: probe, plan, render, write. Questions are answered, and artifacts
written, on a state that the run is handed through. -/
def Project.generate {σ : Type} (project : Project) (corpus : Corpus)
    (answer : (question : Question) → σ → question.Answer × σ) (writer : Writer σ)
    (prober : Prober) (state : σ) : Except Fault Report × Prober × σ :=
  let ((outcome, prober), state) := (project.prepare corpus prober).run answer state
  match outcome with
  | .error fault => (.error fault, prober, state)
  | .ok prepared =>
    let (report, state) := prepared.produce writer state
    (.ok report, prober, state)

/-- In an environment that always answers in the same way, the run writes what was prepared
there. -/
theorem Project.generate_of_environment {σ : Type} (project : Project) (corpus : Corpus)
    (environment : Environment) (writer : Writer σ) (prober : Prober) (state : σ) :
    project.generate corpus (fun question state ↦ (environment.answer question, state)) writer
        prober state =
      match (project.prepare corpus prober).answer environment with
      | (.error fault, prober) => (.error fault, prober, state)
      | (.ok prepared, prober) =>
        (.ok (prepared.produce writer state).1, prober, (prepared.produce writer state).2) := by
  unfold generate Inquiry.answer
  rw [Dialogue.run_of_replies]
  rcases (project.prepare corpus prober).result environment.answer with ⟨_ | _, _⟩ <;> rfl

end Scaffold
