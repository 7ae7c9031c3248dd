import Scaffold.Proofs.CommandLine.Probing
import Scaffold.Proofs.Toolchain.Machine

/-!
# Working without tools

A command that is told to work offline runs no tool, and nothing is known to it. The same command on
a machine without tools runs into a failure each time, and it comes to the same: what is asked has
the same answers wherever they matter (`Environment.IsBare`), and a pass over dependencies depends
on its decisions alone (`Prober.answer_probeUntil_congr`). The one exception is a path that a user
names: on the machine it may be there (`offline_of_isWithout`).
-/

set_option autoImplicit false

namespace Scaffold

/-! ### Bare environments -/

theorem isBare_none : KnownAnswers.none.environment.IsBare :=
  ⟨fun _ ↦ rfl, fun _ _ ↦ rfl⟩

/-- Bare environments are alike to a decision if they are about the path that it looks below. -/
theorem Environment.IsBare.decision_eq {first second : Environment} (hfirst : first.IsBare)
    (hsecond : second.IsBare) {dependency : Dependency}
    (hpath : ∀ path, dependency.override = .path path →
      first.pathExists path = second.pathExists path) :
    dependency.decision.answer first = dependency.decision.answer second := by
  rw [hfirst.answer_decision, hsecond.answer_decision]
  unfold Dependency.unassisted
  split
  · next path hoverride => rw [hpath path hoverride]
  all_goals rfl

namespace Prober

variable {first second : Environment}

theorem answer_probe_congr (prober : Prober) {dependency : Dependency}
    (hsame : dependency.decision.answer first = dependency.decision.answer second) :
    (prober.probe dependency).answer first = (prober.probe dependency).answer second := by
  unfold probe
  split
  · rfl
  · rw [Inquiry.answer_bind, Inquiry.answer_bind, hsame]
    cases dependency.decision.answer second <;> rfl

/-- Where the same is decided for each dependency, a pass over them comes to the same. -/
theorem answer_probeUntil_congr (prober : Prober) {dependencies : List Dependency}
    (hsame : ∀ dependency ∈ dependencies,
      dependency.decision.answer first = dependency.decision.answer second) :
    (prober.probeUntil dependencies).answer first =
      (prober.probeUntil dependencies).answer second := by
  induction dependencies generalizing prober with
  | nil => rfl
  | cons dependency rest ih =>
    rw [probeUntil, Inquiry.answer_bind, Inquiry.answer_bind,
      prober.answer_probe_congr (hsame dependency List.mem_cons_self)]
    rcases (prober.probe dependency).answer second with ⟨fault | finding, later⟩
    · rfl
    · have hrest := ih later fun other hother ↦ hsame other (List.mem_cons_of_mem _ hother)
      simp only [Inquiry.answer_bind, hrest]
      rfl

/-- So does the pass that keeps nothing of what was found before a failure. -/
theorem answer_probeAll_congr (prober : Prober) {dependencies : List Dependency}
    (hsame : ∀ dependency ∈ dependencies,
      dependency.decision.answer first = dependency.decision.answer second) :
    (prober.probeAll dependencies).answer first = (prober.probeAll dependencies).answer second := by
  have hlockstep := probeUntil_lockstep prober dependencies
  have hkept := answer_probeUntil_congr prober hsame
  simp only [Inquiry.answer] at hkept ⊢
  rw [(hlockstep.result first.answer).2, (hlockstep.result second.answer).2, hkept]

end Prober

/-- What is prepared for a run depends on the decisions alone. -/
theorem Project.answer_prepare_congr (project : Project) (corpus : Corpus) (prober : Prober)
    {first second : Environment}
    (hsame : ∀ dependency ∈ project.dependencies,
      dependency.decision.answer first = dependency.decision.answer second) :
    (project.prepare corpus prober).answer first =
      (project.prepare corpus prober).answer second := by
  simp only [prepare, Inquiry.answer_bind, Prober.answer_probeAll_congr prober hsame]
  rfl

namespace CommandLine.Workplace

/-- The options of a command that is to run no tools. -/
def offline (options : ProbeOptions) : ProbeOptions :=
  { options with isOffline := true }

/-- The machine of a place answers as an environment does, and nothing that it is asked changes
it. -/
def Keeps (place : Workplace) (options : ProbeOptions) (environment : Environment) : Prop :=
  ∀ question, place.answer options question place.machine =
    (environment.answer question, place.machine)

variable {place : Workplace} {options : ProbeOptions} {environment : Environment}

theorem keeps_of_isOffline (hoffline : options.isOffline = true) :
    place.Keeps options KnownAnswers.none.environment := by
  intro question
  rw [answer, if_pos hoffline]

theorem keeps_of_isWithout (hoffline : options.isOffline = false)
    (hwithout : place.machine.IsWithout (place.tools options)) :
    place.Keeps options (place.machine.environment (place.tools options)) := by
  intro question
  rw [answer, if_neg (Bool.eq_false_iff.mp hoffline), Machine.environment_answer]
  exact Prod.ext rfl (hwithout.answer_snd question)

/-- Without tools there is a bare environment that the machine answers as, and in which no path is
there that is not on the machine. -/
theorem exists_keeps (hwithout : place.machine.IsWithout (place.tools options)) :
    ∃ environment : Environment, environment.IsBare ∧
      (∀ path, place.machine.tree.pathExists place.machine.here path = false →
        environment.pathExists path = false) ∧
      place.Keeps options environment := by
  cases hoffline : options.isOffline with
  | true => exact ⟨_, isBare_none, fun _ _ ↦ rfl, keeps_of_isOffline hoffline⟩
  | false =>
    exact ⟨_, hwithout.isBare_environment, fun _ ↦ id, keeps_of_isWithout hoffline hwithout⟩

theorem Keeps.probe_eq (hkeeps : place.Keeps options environment) (project : Project) :
    place.probe project options =
      let kept := (Prober.empty.probeUntil project.dependencies).answer environment
      leaves place.machine.tree kept.1 kept.2.1 :=
  probe_eq_leaves (Dialogue.run_of_still hkeeps _)

/-- Answering beside what is printed, the machine still comes to what an environment does. -/
theorem Keeps.run_eq {α : Type} (hkeeps : place.Keeps options environment) (inquiry : Inquiry α)
    (printed : String) :
    inquiry.run
        (fun question (state : Machine × String) ↦
          let (answer, machine) := place.answer options question state.1
          (answer, machine, state.2))
        (place.machine, printed) =
      (inquiry.answer environment, place.machine, printed) :=
  Dialogue.run_of_still (fun question ↦ by rw [hkeeps question]) inquiry

/-- Where the same is prepared for a run, the command comes to the same. -/
theorem Keeps.generate_eq {others : ProbeOptions} {other : Environment}
    (hkeeps : place.Keeps options environment) (hothers : place.Keeps others other)
    {project : Project} {corpus : Corpus}
    (hprepared : (project.prepare corpus .empty).answer environment =
      (project.prepare corpus .empty).answer other) (output : Option Path) :
    place.generate project corpus output options =
      place.generate project corpus output others := by
  simp only [generate, Project.generate, hkeeps.run_eq, hothers.run_eq, hprepared]

/-- Without tools a command comes to what it comes to offline, unless it is told to look below a
path that is there. -/
theorem offline_of_isWithout (hwithout : place.machine.IsWithout (place.tools options))
    {project : Project}
    (hpaths : ∀ dependency ∈ project.dependencies, ∀ path, dependency.override = .path path →
      place.machine.tree.pathExists place.machine.here path = false) :
    place.probe project options = place.probe project (offline options) ∧
      ∀ corpus output, place.generate project corpus output options =
        place.generate project corpus output (offline options) := by
  obtain ⟨environment, hbare, habsent, hkeeps⟩ := exists_keeps hwithout
  have hoffline : place.Keeps (offline options) KnownAnswers.none.environment :=
    keeps_of_isOffline rfl
  have hsame : ∀ dependency ∈ project.dependencies,
      dependency.decision.answer environment =
        dependency.decision.answer KnownAnswers.none.environment :=
    fun dependency hdependency ↦ hbare.decision_eq isBare_none fun path hoverride ↦
      habsent path (hpaths dependency hdependency path hoverride)
  constructor
  · rw [hkeeps.probe_eq, hoffline.probe_eq, Prober.answer_probeUntil_congr _ hsame]
  · intro corpus output
    exact hkeeps.generate_eq hoffline (project.answer_prepare_congr corpus _ hsame) output

end CommandLine.Workplace

end Scaffold
