import Scaffold.Proofs.Dependency.Decision
import Scaffold.Proofs.Dependency.Tools
import Scaffold.Toolchain.Machine

/-!
# What asking leaves of a machine

The tools of a machine may do anything to its files. What is known whatever they do is that one
works where one did before, and that nothing is left of a probe program (`here_answer`,
`find?_run_of_probe`). A tool that cannot be started does nothing, and the machine is the same after
it (`run_of_refuses`).

On a machine where neither the compiler nor the package tool can be started (`IsWithout`), for
example one without any program (`isWithout_of_hasNoProgram`), no question changes anything
(`IsWithout.answer_snd`). So a whole inquiry comes to its answer in one environment and leaves the
machine as it was (`IsWithout.run_eq`), and a decision comes to what the override decides alone, and
whether the path in it exists (`decision_without_tools`).

Nothing here looks into the run of a program, which is up to the shell.
-/

set_option autoImplicit false

namespace Scaffold

/-! ### Programs among files -/

/-- No file of the tree may be run. -/
def FileTree.HasNoProgram (tree : FileTree) : Prop :=
  ∀ location octets, tree.find? location ≠ some (.file octets true)

theorem FileTree.HasNoProgram.put {tree : FileTree} (hnone : tree.HasNoProgram)
    {location : Location} (hbelow : location ≠ []) {entry : Entry}
    (hentry : ∀ octets, entry ≠ .file octets true) : (tree.put location entry).HasNoProgram := by
  intro other octets
  rw [find?_put _ hbelow]
  split
  · simpa using hentry octets
  · exact hnone other octets

/-- Where there is no program, no file comes to one. -/
theorem Shell.State.resolve_ne_ok {state : State} (hnone : state.world.tree.HasNoProgram)
    (left : Nat) (path : Text.Octets) (words : List Text.Octets)
    (started : Program × List Text.Octets) : state.resolve left path words ≠ .ok started := by
  cases left with
  | zero => exact nofun
  | succ left =>
    rw [resolve]
    split
    · exact nofun
    · split
      · next octets hfound => exact (hnone _ octets hfound).elim
      · exact nofun
      · exact nofun

/-! ### Environments without tools -/

/-- Nothing is known of the system but which paths exist. -/
structure Environment.IsBare (environment : Environment) : Prop where
  packageConfig : ∀ module, environment.packageConfig module = .unavailable
  hasHeader : ∀ header cppflags, environment.hasHeader header cppflags = false

/-- What a dependency comes to where nothing is known of the system but which paths exist. -/
def Dependency.unassisted (dependency : Dependency) (isThere : Path → Bool) :
    Except Fault Finding :=
  match dependency.override with
  | .path path =>
    .error (if isThere path then .overrideUnusable dependency.name path
      else .pathNotFound dependency.name path)
  | .disabled => .ok (.new dependency .disabled [] [] none)
  | .auto => .ok dependency.fallback
  | .required => .error (.requiredMissing dependency.name)

theorem Environment.IsBare.answer_decision {environment : Environment} (hbare : environment.IsBare)
    (dependency : Dependency) :
    dependency.decision.answer environment = dependency.unassisted environment.pathExists := by
  have hpackaged : ¬Dependency.Packaged environment dependency := by
    rintro ⟨version, cflags, libs, hlookup, -⟩
    simp only [hbare.packageConfig, reduceCtorEq] at hlookup
  have hfound : ∀ cppflags ldflags, ¬Dependency.Found environment dependency cppflags ldflags := by
    rintro cppflags ldflags ⟨hheader, -⟩
    simp only [hbare.hasHeader, Bool.false_eq_true] at hheader
  unfold Dependency.unassisted
  cases hoverride : dependency.override with
  | path path =>
    rw [dependency.decision_of_path hoverride, Dependency.answer_decidePath, if_neg (hfound _ _)]
    exact (apply_ite Except.error _ _ _).symm
  | disabled => rw [dependency.decision_of_disabled hoverride, Inquiry.answer_pure]
  | auto =>
    rw [dependency.decision_of_auto hoverride]
    exact Dependency.answer_of_not_found _ _ false hpackaged (hfound [] [])
  | required =>
    rw [dependency.decision_of_required hoverride]
    exact Dependency.answer_of_not_found _ _ true hpackaged (hfound [] [])

namespace Machine

variable {machine : Machine} {settings : List (String × String)} {limit : Nat} {call : ToolCall}
  {tools : Toolchain}

/-! ### One run -/

theorem run_fst :
    (machine.run settings limit call).1 =
      ((machine.forCall call).runHere settings limit call).1 := by
  unfold run
  cases call.probe <;> rfl

/-- The files after a run are those that the tool left, without what was made for it. -/
theorem run_snd :
    (machine.run settings limit call).2 =
      { machine with
        tree :=
          let tree := ((machine.forCall call).runHere settings limit call).2
          if call.probe.isSome then tree.eraseBelow (probeDirectory machine.tree) else tree } := by
  unfold run
  cases call.probe <;> rfl

theorem here_run : (machine.run settings limit call).2.here = machine.here := by
  rw [run_snd]

/-- After the run of a tool on a probe program, nothing is left of where the program was. -/
theorem find?_run_of_probe (hprobe : call.probe.isSome) {location : Location}
    (hlocation : probeDirectory machine.tree <+: location) :
    (machine.run settings limit call).2.tree.find? location = none := by
  rw [run_snd]
  simp only [if_pos hprobe]
  rw [FileTree.find?_eraseBelow _ (by simp [probeDirectory]), if_pos hlocation]

/-- The tool cannot be started. -/
def Refuses (machine : Machine) (settings : List (String × String)) (limit : Nat)
    (call : ToolCall) : Prop :=
  ∃ error, (machine.run settings limit call).1 = .notStarted error

/-- Nothing lies where a probe program is put. -/
def IsClear (machine : Machine) : Prop :=
  ∀ held ∈ machine.tree.entries, ¬probeDirectory machine.tree <+: held.1

theorem runHere_of_notStarted {error : SystemError}
    (hfails : (machine.runHere settings limit call).1 = .notStarted error) :
    (machine.runHere settings limit call).2 = machine.tree := by
  simp only [runHere] at hfails ⊢
  split at hfails
  · rfl
  · -- A program that was found ends, or runs out of time.
    split at hfails <;> cases hfails

/-- What is made for the run of a tool goes with the directory that is made for it. -/
theorem eraseBelow_forCall (hclear : machine.IsClear) {source : String}
    (hprobe : call.probe = some source) :
    (machine.forCall call).tree.eraseBelow (probeDirectory machine.tree) = machine.tree := by
  simp only [forCall, hprobe]
  rw [FileTree.eraseBelow_put _ (List.prefix_append _ _),
    FileTree.eraseBelow_put _ (List.prefix_refl _), FileTree.eraseBelow_of_forall hclear]

/-- A tool that cannot be started leaves the machine as it was. -/
theorem run_of_refuses (hclear : machine.IsClear) (hrefuses : machine.Refuses settings limit call) :
    (machine.run settings limit call).2 = machine := by
  obtain ⟨error, hfails⟩ := hrefuses
  rw [run_fst] at hfails
  rw [run_snd, runHere_of_notStarted hfails]
  cases hprobe : call.probe with
  | none => simp [forCall, hprobe]
  | some source => simp [eraseBelow_forCall hclear hprobe]

theorem program_ne_ok {state : Shell.State} (hnone : state.world.tree.HasNoProgram)
    (call : ToolCall) (started : Text.Octets × Shell.Program × List Text.Octets) :
    program state call ≠ .ok started := by
  intro hstarted
  unfold program at hstarted
  simp only [bind, Except.bind] at hstarted
  split at hstarted
  · cases hstarted
  · split at hstarted
    · cases hstarted
    · split at hstarted
      · cases hstarted
      · next hresolve => exact Shell.State.resolve_ne_ok hnone _ _ _ _ hresolve

/-- Where there is no program, no tool can be started. -/
theorem refuses_of_hasNoProgram (hnone : machine.tree.HasNoProgram) :
    machine.Refuses settings limit call := by
  have hcall : (machine.forCall call).tree.HasNoProgram := by
    unfold forCall
    split
    · exact hnone
    · have hdirectory : (machine.tree.put (probeDirectory machine.tree) .directory).HasNoProgram :=
        hnone.put (by simp [probeDirectory]) (by simp)
      exact hdirectory.put (by simp) (by simp)
  unfold Refuses
  rw [run_fst]
  simp only [runHere]
  split
  · exact ⟨_, rfl⟩
  · next hstarted => exact (program_ne_ok (by exact hcall) call _ hstarted).elim

/-! ### Inquiries -/

/-- One works where one did before, whatever the tools are run for. -/
theorem here_answer (question : Question) :
    (answer tools question machine).2.here = machine.here := by
  let keeps : Machine → Prop := fun later ↦ later.here = machine.here
  refine Dialogue.run_keeps (fun query later (hlater : keeps later) ↦ ?_) _ rfl
  cases query with
  | run call => exact here_run.trans hlater
  | pathExists path => exact hlater

/-- The answers of a machine as it is. -/
def environment (machine : Machine) (tools : Toolchain) : Environment where
  packageConfig module := (answer tools (.packageConfig module) machine).1
  hasHeader header cppflags := (answer tools (.hasHeader header cppflags) machine).1
  linkSymbol symbol ldflags := (answer tools (.linkSymbol symbol ldflags) machine).1
  pathExists path := machine.tree.pathExists machine.here path

theorem environment_answer (question : Question) :
    (machine.environment tools).answer question = (answer tools question machine).1 := by
  cases question <;> rfl

/-- Neither tool can be started, and nothing is in the way of a probe program. -/
structure IsWithout (machine : Machine) (tools : Toolchain) : Prop where
  isClear : machine.IsClear
  refuses : ∀ call : ToolCall, call.program = tools.compiler ∨ call.program = tools.packageTool →
    machine.Refuses (toolSettings tools) tools.timeLimit call

theorem isWithout_of_hasNoProgram (hclear : machine.IsClear) (hnone : machine.tree.HasNoProgram) :
    machine.IsWithout tools :=
  ⟨hclear, fun _ _ ↦ refuses_of_hasNoProgram hnone⟩

section

variable (hwithout : machine.IsWithout tools)
include hwithout

/-- What begins with the run of a tool goes on with its failure, on the same machine. -/
theorem IsWithout.exists_run_call {α : Type} (call : ToolCall)
    (htool : call.program = tools.compiler ∨ call.program = tools.packageTool)
    (next : ToolRun → ToolSession α) :
    ∃ error, (Toolchain.call call >>= next).run (reply (toolSettings tools) tools.timeLimit)
      machine = (next (.notStarted error)).run (reply (toolSettings tools) tools.timeLimit)
        machine := by
  have hrefuses := hwithout.refuses call htool
  have hsame := run_of_refuses hwithout.isClear hrefuses
  obtain ⟨error, herror⟩ := hrefuses
  have hreply : (Toolchain.call call).run (reply (toolSettings tools) tools.timeLimit) machine =
      (.notStarted error, machine) := Prod.ext herror hsame
  exact ⟨error, by rw [Dialogue.run_bind, hreply]⟩

theorem IsWithout.answer_packageConfig (module : String) :
    answer tools (.packageConfig module) machine = (.unavailable, machine) := by
  obtain ⟨error, hrun⟩ :=
    hwithout.exists_run_call (tools.packageCall "--modversion" module) (.inr rfl) _
  exact hrun

theorem IsWithout.answer_hasHeader (header : String) (cppflags : List String) :
    answer tools (.hasHeader header cppflags) machine = (false, machine) := by
  obtain ⟨error, hrun⟩ := hwithout.exists_run_call (tools.headerCall header cppflags) (.inl rfl) _
  exact hrun

/-- No question changes the machine. -/
theorem IsWithout.answer_snd (question : Question) :
    (answer tools question machine).2 = machine := by
  cases question with
  | packageConfig module => rw [hwithout.answer_packageConfig]
  | hasHeader header cppflags => rw [hwithout.answer_hasHeader]
  | linkSymbol symbol ldflags =>
    obtain ⟨error, hrun⟩ := hwithout.exists_run_call (tools.linkCall symbol ldflags) (.inl rfl) _
    exact congrArg Prod.snd hrun
  | pathExists path => rfl

/-- An inquiry has the answer of one environment, and leaves the machine as it was. -/
theorem IsWithout.run_eq {α : Type} (inquiry : Inquiry α) :
    inquiry.run (answer tools) machine =
      (inquiry.answer (machine.environment tools), machine) := by
  refine Dialogue.run_of_still (fun question ↦ ?_) inquiry
  rw [environment_answer]
  exact Prod.ext rfl (hwithout.answer_snd question)

theorem IsWithout.isBare_environment : (machine.environment tools).IsBare where
  packageConfig module := congrArg Prod.fst (hwithout.answer_packageConfig module)
  hasHeader header cppflags := congrArg Prod.fst (hwithout.answer_hasHeader header cppflags)

/-- Without tools nothing is found on the system: a decision comes to what the override and the path
in it decide alone, and the machine is as before. -/
theorem decision_without_tools (dependency : Dependency) :
    dependency.decision.run (answer tools) machine =
      (dependency.unassisted (machine.tree.pathExists machine.here), machine) := by
  rw [hwithout.run_eq, hwithout.isBare_environment.answer_decision]
  rfl

end

-- A machine without files has no tools.
example (tools : Toolchain) : IsWithout ⟨.empty, []⟩ tools :=
  isWithout_of_hasNoProgram nofun fun location octets ↦ by
    by_cases hroot : location = [] <;> simp [FileTree.find?, FileTree.lookup, FileTree.empty, hroot]

end Machine

end Scaffold
