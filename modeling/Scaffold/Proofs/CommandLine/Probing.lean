import Scaffold.CommandLine.Run
import Scaffold.Proofs.Dependency.Probing

/-!
# The command that probes

The command prints what the pass that keeps its findings comes to, and a generation run takes what
the other pass comes to. On a machine of any kind the two go in lockstep (`probe_agrees`). Where the
machine answers as an environment does (`Workplace.Shows`), both follow the course that the
decisions there give to the dependencies (`probing_stops_at_first_failure`).
-/

set_option autoImplicit false

namespace Scaffold.CommandLine.Workplace

open Prober

/-- What the command leaves: what was found is printed, and a failure is reported. -/
def leaves (tree : FileTree) (resolved : List Resolved) : Option Fault → Result
  | none => ⟨0, textOfLines (resolved.flatMap findingLines), "", tree⟩
  | some fault =>
    ⟨1, textOfLines (resolved.flatMap findingLines), "Error: " ++ fault.message ++ "\n", tree⟩

/-- The report of a failed probe is its message alone, with no causes behind it. -/
theorem text_ofFault (fault : Fault) :
    (Failure.ofFault fault).text = "Error: " ++ fault.message ++ "\n" :=
  rfl

theorem probe_eq_leaves {place : Workplace} {project : Project} {options : ProbeOptions}
    {resolved : List Resolved} {fault? : Option Fault} {later : Prober} {machine : Machine}
    (hrun : (empty.probeUntil project.dependencies).run (place.answer options) place.machine =
      ((resolved, fault?, later), machine)) :
    place.probe project options = leaves machine.tree resolved fault? := by
  rw [probe, hrun]
  cases fault? with
  | none => rfl
  | some fault => simp only [leaves, text_ofFault]

/-- On every machine the command shows what a pass for a generation run comes to there, and what was
found before a failure. -/
theorem probe_agrees (place : Workplace) (project : Project) (options : ProbeOptions) :
    ∃ resolved fault? later machine,
      place.probe project options = leaves machine.tree resolved fault? ∧
      (empty.probeAll project.dependencies).run (place.answer options) place.machine =
        ((passed resolved fault?, later), machine) := by
  rcases hrun : (empty.probeUntil project.dependencies).run (place.answer options) place.machine
    with ⟨⟨resolved, fault?, later⟩, machine⟩
  obtain ⟨-, hmachine, hwhole⟩ :=
    (probeUntil_lockstep empty project.dependencies).run (place.answer options) place.machine
  rw [hrun] at hmachine hwhole
  exact ⟨resolved, fault?, later, machine, probe_eq_leaves hrun, Prod.ext hwhole hmachine.symm⟩

/-- The machine of a place answers as an environment does, and goes on to do so whatever it is
asked. -/
def Shows (place : Workplace) (options : ProbeOptions) (environment : Environment) : Prop :=
  ∃ steady : Machine → Prop, steady place.machine ∧ ∀ question machine, steady machine →
    (place.answer options question machine).1 = environment.answer question ∧
      steady (place.answer options question machine).2

/-- Without tools nothing is known, and the machine stays as it is. -/
theorem shows_of_isOffline (place : Workplace) {options : ProbeOptions}
    (hoffline : options.isOffline = true) : place.Shows options KnownAnswers.none.environment := by
  refine ⟨fun _ ↦ True, trivial, fun question machine _ ↦ ?_⟩
  rw [answer, if_pos hoffline]
  exact ⟨rfl, trivial⟩

/-- Where the answers are those of an environment, the command shows what a pass finds there. -/
theorem Shows.probe_eq {place : Workplace} {options : ProbeOptions} {environment : Environment}
    (hshows : place.Shows options environment) {project : Project} {resolved : List Resolved}
    {fault? : Option Fault} {later : Prober}
    (hkept : (empty.probeUntil project.dependencies).answer environment =
      (resolved, fault?, later)) :
    ∃ tree, place.probe project options = leaves tree resolved fault? := by
  obtain ⟨steady, hmachine, hsteady⟩ := hshows
  have hresult := (Dialogue.run_of_steady hsteady _ hmachine).trans hkept
  exact ⟨_, probe_eq_leaves (Prod.ext hresult rfl)⟩

/-- Probing stops at the first dependency that fails. The decisions of an environment give the
dependencies of a project a course: each is found, or one of them is the first that fails. Where no
name recurs, a generation run comes to all that was found, in the order of the project, or to the
error of that dependency, and it asks what the decisions up to that dependency ask. The pass of the
command comes to what was found before a failure, in the same order, together with the same error,
and asks the same; the command prints the one and reports the other. On a machine of any kind it
agrees with what a generation run would come to. -/
theorem probing_stops_at_first_failure (environment : Environment) {project : Project}
    (hdistinct : (project.dependencies.map (·.name)).Nodup) :
    (∃ asked resolved fault?,
      Course environment project.dependencies asked resolved fault?) ∧
    (∀ asked resolved fault?, Course environment project.dependencies asked resolved fault? →
      ((empty.probeAll project.dependencies).answer environment).1 = passed resolved fault? ∧
      (empty.probeAll project.dependencies).questions environment =
        asked.flatMap (·.decision.questions environment) ∧
      (∃ later, (empty.probeUntil project.dependencies).answer environment =
        (resolved, fault?, later)) ∧
      (empty.probeUntil project.dependencies).questions environment =
        asked.flatMap (·.decision.questions environment) ∧
      ∀ (place : Workplace) (options : ProbeOptions), place.Shows options environment →
        ∃ tree, place.probe project options = leaves tree resolved fault?) ∧
    ∀ (place : Workplace) (options : ProbeOptions), ∃ resolved fault? later machine,
      place.probe project options = leaves machine.tree resolved fault? ∧
      (empty.probeAll project.dependencies).run (place.answer options) place.machine =
        ((passed resolved fault?, later), machine) := by
  refine ⟨exists_course environment project.dependencies, fun asked resolved fault? hcourse ↦ ?_,
    fun place options ↦ place.probe_agrees project options⟩
  have hfresh : ∀ dependency ∈ project.dependencies, empty.cached? dependency.name = none :=
    fun _ _ ↦ rfl
  obtain ⟨⟨later, hkept⟩, hquestions⟩ := hcourse.probeUntil_eq hdistinct hfresh
  obtain ⟨hwhole, hasked⟩ := hcourse.probeAll_eq hdistinct hfresh
  exact ⟨hwhole, hasked, ⟨later, hkept⟩, hquestions,
    fun place options hshows ↦ hshows.probe_eq hkept⟩

/-- A dependency that is required but not there stands between two others. -/
theorem probing_stops_between :
    let first := (Dependency.new "a" "1").withOverride .disabled
    let second := (Dependency.new "libb" "1").withOverride .required
    let project : Project :=
      ⟨[], "", "libexample", "", [], none, [first, second, .new "c" "1"]⟩
    let environment := KnownAnswers.none.environment
    let place : Workplace := ⟨⟨⟨[]⟩, []⟩, "cc", "pkg-config"⟩
    (project.dependencies.map (·.name)).Nodup ∧
      ((empty.probeAll project.dependencies).answer environment).1 =
        .error (.requiredMissing "libb") ∧
      (empty.probeAll project.dependencies).questions environment =
        [.packageConfig "libb", .hasHeader "libb.h" []] ∧
      (∃ later, (empty.probeUntil project.dependencies).answer environment =
        ([⟨first, .new first .disabled [] [] none⟩], some (.requiredMissing "libb"), later)) ∧
      ∃ tree, place.probe project ⟨[], true, none⟩ =
        ⟨1, "liba disabled\n  define HAVE_LIBA=0\n",
          "Error: Unable to find a supported 'libb' on the system\n", tree⟩ := by
  intro first second project environment place
  have hdistinct : (project.dependencies.map (·.name)).Nodup := by decide
  have hfirst : IsDecidedAs environment first ⟨first, .new first .disabled [] [] none⟩ :=
    ⟨rfl, rfl⟩
  have hsecond : second.decision.answer environment = .error (.requiredMissing "libb") := by
    decide +kernel
  obtain ⟨-, hfollows, -⟩ := probing_stops_at_first_failure environment hdistinct
  obtain ⟨hwhole, hasked, hkept, -, hcommand⟩ :=
    hfollows _ _ _ (.stopped second [.new "c" "1"] (.cons hfirst .nil) hsecond)
  obtain ⟨tree, htree⟩ := hcommand place ⟨[], true, none⟩ (place.shows_of_isOffline rfl)
  refine ⟨hdistinct, hwhole, hasked.trans (by decide +kernel), hkept, tree, htree.trans ?_⟩
  have hprinted : textOfLines (findingLines ⟨first, .new first .disabled [] [] none⟩) =
      "liba disabled\n  define HAVE_LIBA=0\n" := by
    decide +kernel
  have hreported : "Error: " ++ (Fault.requiredMissing "libb").message ++ "\n" =
      "Error: Unable to find a supported 'libb' on the system\n" := by
    decide +kernel
  rw [leaves, List.flatMap_singleton, hprinted, hreported]

end Scaffold.CommandLine.Workplace
