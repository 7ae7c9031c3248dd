import Scaffold.Proofs.Artifact.Accounting
import Scaffold.Proofs.Project.Shipped

/-!
# Runs over the built-in templates

A run over the built-in corpus has a closed form. Once the dependencies of a valid project are
probed, nothing is left that could fail on the way but one thing: two dependencies, one named like
the other with `lib` before it, would go to the same macro file (`exists_lib_of_libraryId_eq`).
Otherwise a writer that never fails is handed two library headers, a header stub, a test for each
type and a macro file for each dependency, and nothing else (`generate_builtin`).
-/

set_option autoImplicit false

namespace Scaffold

variable {σ : Type}

/-! ### Runs without failures -/

/-- A writer that never fails, in a run that is not cancelled, writes every plan that can be
rendered. -/
theorem Prepared.produce_of_rendered (prepared : Prepared) {writer : Writer σ}
    (hwrites : ∀ artifact state, (writer.write artifact state).1 = .ok ())
    (hrunning : ∀ state, writer.isCancelled state = false)
    (hrender : ∀ plan ∈ prepared.planning.plans, ∃ artifact, plan.render = .ok artifact)
    (state : σ) :
    (prepared.produce writer state).1 =
      ⟨⟨prepared.planning.plans.map fun plan ↦ (plan.kind, plan.destination),
        prepared.planning.failures, false⟩, prepared.dependencies⟩ := by
  have hledger := writer.isLedger_ledger prepared.planning.plans state
  have hlength : (writer.ledger prepared.planning.plans state).length =
      prepared.planning.plans.length := by
    refine Nat.le_antisymm hledger.length_le (Nat.le_of_not_lt fun hshort ↦ ?_)
    have hseen := hledger.seen hshort
    rw [hrunning] at hseen
    exact Bool.false_ne_true hseen
  have hfailures : (writer.ledger prepared.planning.plans state).filterMap Begun.failure? = [] := by
    refine List.filterMap_eq_nil_iff.mpr fun begun hbegun ↦ ?_
    have hmem : begun.plan ∈ prepared.planning.plans := by
      have hplan := List.mem_map_of_mem (f := Begun.plan) hbegun
      rw [hledger.plans_eq] at hplan
      exact List.mem_of_mem_take hplan
    obtain ⟨i, hi⟩ := List.mem_iff_getElem?.mp hbegun
    obtain ⟨artifact, hartifact⟩ := hrender begun.plan hmem
    rw [Begun.failure?, hledger.fate_eq i begun hi, Plan.fate, hartifact]
    simp [hwrites, Fate.fault?]
  rw [produce_eq, hfailures, (Writer.filterMap_written_eq_iff hledger).mpr ⟨hfailures, hlength⟩,
    hlength]
  simp

/-- It is called with the artifact of each plan, in the order of the plans. -/
theorem Writer.calls_of_rendered {writer : Writer σ}
    (hrunning : ∀ state, writer.isCancelled state = false) {plans : List Plan}
    (hrender : ∀ plan ∈ plans, ∃ artifact, plan.render = .ok artifact ∧
      artifact.kind = plan.kind ∧ artifact.destination = plan.destination) (state : σ) :
    (writer.calls (Plan.renderAll plans) state).map
        (fun artifact ↦ (artifact.kind, artifact.destination)) =
      plans.map fun plan ↦ (plan.kind, plan.destination) := by
  rw [Plan.renderAll_eq]
  induction plans generalizing state with
  | nil => rfl
  | cons plan rest ih =>
    obtain ⟨artifact, hartifact, hkind, hdestination⟩ := hrender plan List.mem_cons_self
    have hrest := ih (fun other hother ↦ hrender other (List.mem_cons_of_mem _ hother))
      (writer.writeRendered plan.render state).2
    rw [List.map_cons, List.map_cons, calls, hrunning, if_neg Bool.false_ne_true, List.map_append,
      hrest, hartifact]
    simp [Except.toOption, hkind, hdestination]

section

variable {project : Project} {answer : (question : Question) → σ → question.Answer × σ}
  {prober later : Prober} {state last : σ} {resolved : List Resolved}
  (hprobed : (prober.probeAll project.dependencies).run answer state =
    ((.ok resolved, later), last))

include hprobed

/-- A run whose dependencies are probed without an error plans over what was found, and then
produces what was planned. -/
theorem Project.generate_of_probed (corpus : Corpus) (writer : Writer σ) :
    project.generate corpus answer writer prober state =
      match project.plan corpus resolved with
      | .error fault => (.error fault, later, last)
      | .ok planning =>
        (.ok ((Prepared.mk resolved planning).produce writer last).1, later,
          ((Prepared.mk resolved planning).produce writer last).2) := by
  rw [generate, prepare, Dialogue.run_bind, hprobed]
  cases hplan : project.plan corpus resolved <;>
    simp [Dialogue.run, pure, Except.pure, bind, Except.bind, hplan]

/-- With a record it leaves what the writer was called with. -/
theorem Project.generateRecorded_of_probed {corpus : Corpus} {planning : Planning}
    (hplan : project.plan corpus resolved = .ok planning) (writer : Writer σ) :
    project.generateRecorded corpus answer writer prober state =
      (.ok ((Prepared.mk resolved planning).produce writer last).1, later,
        ((Prepared.mk resolved planning).produce writer last).2,
        writer.calls (Plan.renderAll planning.plans) last) := by
  have hrecorded : (prober.probeAll project.dependencies).run (Question.besideRecord answer)
      (state, []) = ((.ok resolved, later), last, []) := by
    rw [Inquiry.run_besideRecord, hprobed]
  rw [generateRecorded, generate_of_probed hrecorded, hplan]
  simp only [Prepared.produce_recorded, List.nil_append]

end

/-- A writer that takes everything. -/
def Writer.accepting : Writer Unit where
  write _ state := (.ok (), state)
  isCancelled _ := false

theorem Writer.write_accepting (artifact : Artifact) (state : Unit) :
    (accepting.write artifact state).1 = .ok () :=
  rfl

theorem Writer.isCancelled_accepting (state : Unit) : accepting.isCancelled state = false :=
  rfl

/-! ### Dependencies with one library name -/

/-- Of two dependencies with one library name and names of their own, one is named like the other
with `lib` before it. -/
theorem Dependency.exists_lib_of_libraryId_eq {first second : Dependency}
    (hid : first.libraryId = second.libraryId) (hname : first.name ≠ second.name) :
    first.name = "lib" ++ second.name ∨ second.name = "lib" ++ first.name := by
  have hlink : first.linkName = second.linkName := by simpa [libraryId] using hid
  rcases Text.eq_dropStem_or_eq_append "lib" first.name with hfirst | hfirst <;>
    rcases Text.eq_dropStem_or_eq_append "lib" second.name with hsecond | hsecond <;>
    rw [← linkName] at hfirst hsecond
  · exact absurd (by rw [hfirst, hsecond, hlink]) hname
  · exact .inr (by rw [hsecond, ← hlink, ← hfirst])
  · exact .inl (by rw [hfirst, hlink, ← hsecond])
  · exact absurd (by rw [hfirst, hsecond, hlink]) hname

namespace Project

/-- Two dependencies of the project have the same library name. -/
def SharesLibraryId (project : Project) : Prop :=
  ∃ first ∈ project.dependencies, ∃ second ∈ project.dependencies,
    first.name ≠ second.name ∧ first.libraryId = second.libraryId

theorem nodup_libraryId_iff {project : Project} (hvalid : project.IsValid) :
    (project.dependencies.map (·.libraryId)).Nodup ↔ ¬project.SharesLibraryId := by
  have hnames := hvalid.dependenciesDistinct
  rw [List.nodup_map_iff_inj_on (List.Nodup.of_map _ hnames)]
  constructor
  · rintro hinjective ⟨first, hfirst, second, hsecond, hname, hid⟩
    exact hname (congrArg _ (hinjective first hfirst second hsecond hid))
  · intro hdistinct first hfirst second hsecond hid
    by_contra hne
    refine hdistinct ⟨first, hfirst, second, hsecond, fun hname ↦ hne ?_, hid⟩
    exact List.inj_on_of_nodup_map hnames hfirst hsecond hname

/-! ### The closed form -/

theorem shippedFiles_withoutOverrides (project : Project) :
    project.withoutOverrides.shippedFiles = project.shippedFiles := by
  rw [shippedFiles, shippedFiles, withoutOverrides, List.map_map]
  rfl

/-- Overrides play no part in what is made from the built-in templates. -/
theorem shippedFiles_applyOverrides (project : Project) (overrides : List NamedOverride) :
    (project.applyOverrides overrides).1.shippedFiles = project.shippedFiles := by
  rw [← shippedFiles_withoutOverrides, withoutOverrides_applyOverrides,
    shippedFiles_withoutOverrides]

theorem map_libraryId_applyOverrides (project : Project) (overrides : List NamedOverride) :
    (project.applyOverrides overrides).1.dependencies.map (·.libraryId) =
      project.dependencies.map (·.libraryId) := by
  have hsame := congrArg (fun project ↦ (dependencies project).map (·.libraryId))
    (withoutOverrides_applyOverrides project overrides)
  -- The library name of a dependency does not depend on its override.
  simp only [withoutOverrides, List.map_map] at hsame
  exact hsame

/-- The lines of a report for the files that are made from the built-in templates. -/
theorem map_line_shippedFiles (project : Project) :
    project.shippedFiles.map Report.line =
      [(.librarySource, ⟨project.libraryName ++ "/" ++ project.libraryName ++ "_extern.h"⟩),
        (.librarySource, ⟨project.libraryName ++ "/" ++ project.libraryName ++ "_support.h"⟩),
        (.headerStub, ⟨project.bindingName ++ "/" ++ project.bindingName ++ "_guid.h"⟩)] ++
      project.types.map (fun type ↦
        (.testSource, ⟨"tests/" ++ project.suffix ++ "_test_" ++ type.name ++ ".c"⟩)) ++
      project.dependencies.map fun dependency ↦
        (.buildMacro, ⟨"m4/" ++ dependency.libraryId ++ ".m4"⟩) := by
  have htests : "tests/" = "tests" ++ "/" := rfl
  have hmacros : "m4/" = "m4" ++ "/" := rfl
  simp only [shippedFiles, List.map_append, List.map_cons, List.map_nil, List.map_map, Report.line,
    Function.comp_def, htests, hmacros, String.append_assoc]

/-- A run over the built-in templates has a closed form. For a valid project with any overrides,
whose dependencies are probed without an error, and a writer that never fails, in a run that is not
cancelled, it fails for a repeated destination exactly if two dependencies have the same library
name, which takes one that is named like the other with `lib` before it. Otherwise it succeeds,
reports no failure, and has written each of the files that are made from the built-in templates
once: the writer was handed an artifact for each line of the report, in that order, and nothing
else. -/
theorem generate_builtin {project : Project} (hvalid : project.validate = .ok ())
    (overrides : List NamedOverride) {answer : (question : Question) → σ → question.Answer × σ}
    {writer : Writer σ} (hwrites : ∀ artifact state, (writer.write artifact state).1 = .ok ())
    (hrunning : ∀ state, writer.isCancelled state = false) {state : σ} {resolved : List Resolved}
    (hprobed : ((Prober.empty.probeAll (project.applyOverrides overrides).1.dependencies).run
      answer state).1.1 = .ok resolved) :
    ∃ corpus, Corpus.builtin = .ok corpus ∧
      let outcome := ((project.applyOverrides overrides).1.generate corpus answer writer
        Prober.empty state).1
      let recorded := (project.applyOverrides overrides).1.generateRecorded corpus answer writer
        Prober.empty state
      ((∃ path, outcome = .error (.duplicateDestination path)) ↔ project.SharesLibraryId) ∧
      (∀ first ∈ project.dependencies, ∀ second ∈ project.dependencies,
        first.name ≠ second.name → first.libraryId = second.libraryId →
          first.name = "lib" ++ second.name ∨ second.name = "lib" ++ first.name) ∧
      (¬project.SharesLibraryId → ∃ report, outcome = .ok report ∧
        report.isSuccess = true ∧ report.failures = [] ∧
        report.written.length = 3 + project.types.length + project.dependencies.length ∧
        report.written.Perm
          ([(.librarySource, ⟨project.libraryName ++ "/" ++ project.libraryName ++ "_extern.h"⟩),
            (.librarySource, ⟨project.libraryName ++ "/" ++ project.libraryName ++ "_support.h"⟩),
            (.headerStub, ⟨project.bindingName ++ "/" ++ project.bindingName ++ "_guid.h"⟩)] ++
          project.types.map (fun type ↦
            (.testSource, ⟨"tests/" ++ project.suffix ++ "_test_" ++ type.name ++ ".c"⟩)) ++
          project.dependencies.map fun dependency ↦
            (.buildMacro, ⟨"m4/" ++ dependency.libraryId ++ ".m4"⟩)) ∧
        recorded.1 = .ok report ∧
        recorded.2.2.2.map (fun artifact ↦ (artifact.kind, artifact.destination)) =
          report.written) := by
  have hproject := validate_eq_ok_iff.mp hvalid
  have hoverridden := isValid_applyOverrides hproject overrides
  have hresolved : resolved.map (·.dependency) =
      (project.applyOverrides overrides).1.dependencies :=
    (Prober.empty.probeAll_dependencies _).run answer state resolved hprobed
  obtain ⟨hrepeated, hdistinct⟩ := plan_shipped hoverridden hresolved
  rw [map_libraryId_applyOverrides, nodup_libraryId_iff hproject, not_not] at hrepeated
  rw [map_libraryId_applyOverrides, nodup_libraryId_iff hproject, shippedFiles_applyOverrides,
    map_line_shippedFiles] at hdistinct
  rcases hrun : (Prober.empty.probeAll (project.applyOverrides overrides).1.dependencies).run
    answer state with ⟨⟨probed, later⟩, last⟩
  rw [hrun] at hprobed
  obtain rfl : probed = .ok resolved := hprobed
  refine ⟨.shipped, Corpus.builtin_eq, ⟨?_, fun hshares ↦ ?_⟩,
    fun first _ second _ hname hid ↦ Dependency.exists_lib_of_libraryId_eq hid hname,
    fun hshares ↦ ?_⟩
  · rintro ⟨path, hpath⟩
    by_contra hshares
    obtain ⟨plans, hplan, -⟩ := hdistinct hshares
    rw [generate_of_probed hrun, hplan] at hpath
    cases hpath
  · obtain ⟨path, hplan⟩ := hrepeated hshares
    exact ⟨path, by rw [generate_of_probed hrun, hplan]⟩
  · obtain ⟨plans, hplan, hlines, hrender⟩ := hdistinct hshares
    have hproduce := Prepared.produce_of_rendered (Prepared.mk resolved ⟨plans, []⟩) hwrites
      hrunning (fun plan hmem ↦ (hrender plan hmem).imp fun _ hartifact ↦ hartifact.1) last
    have hcalls := Writer.calls_of_rendered hrunning hrender last
    have hgenerate := generate_of_probed hrun .shipped writer
    have hrecorded := generateRecorded_of_probed hrun hplan writer
    simp only [hplan, hproduce] at hgenerate
    rw [hproduce] at hrecorded
    refine ⟨_, congrArg Prod.fst hgenerate, rfl, rfl, ?_, hlines, congrArg Prod.fst hrecorded, ?_⟩
    · have hlength := hlines.length_eq
      simpa [Nat.add_comm, Nat.add_left_comm, Nat.add_assoc] using hlength
    · rw [hrecorded, hcalls]

/-- A library `libx` with a type `file` and a disabled dependency `z` comes to five files. -/
theorem generate_builtin_of_disabled :
    ∃ corpus report, Corpus.builtin = .ok corpus ∧
      (generate (applyOverrides ⟨[], "", "libx", "", [⟨"file", "value"⟩], none, [.new "z" "1"]⟩
          [⟨"libz", .disabled⟩]).1 corpus
        (fun question state ↦ (KnownAnswers.none.environment.answer question, state))
        Writer.accepting Prober.empty ()).1 = .ok report ∧
      report.isSuccess = true ∧ report.written.length = 5 ∧
      report.written.Perm
        [(.librarySource, ⟨"libx/libx_extern.h"⟩), (.librarySource, ⟨"libx/libx_support.h"⟩),
          (.headerStub, ⟨"pyx/pyx_guid.h"⟩), (.testSource, ⟨"tests/x_test_file.c"⟩),
          (.buildMacro, ⟨"m4/libz.m4"⟩)] ∧
      (generateRecorded (applyOverrides
          ⟨[], "", "libx", "", [⟨"file", "value"⟩], none, [.new "z" "1"]⟩
          [⟨"libz", .disabled⟩]).1 corpus
        (fun question state ↦ (KnownAnswers.none.environment.answer question, state))
        Writer.accepting Prober.empty ()).2.2.2.map
          (fun artifact ↦ (artifact.kind, artifact.destination)) = report.written := by
  have hvalid : validate ⟨[], "", "libx", "", [⟨"file", "value"⟩], none, [.new "z" "1"]⟩ =
      .ok () := by
    decide +kernel
  have hprobed : ((Prober.empty.probeAll (applyOverrides
        ⟨[], "", "libx", "", [⟨"file", "value"⟩], none, [.new "z" "1"]⟩
        [⟨"libz", .disabled⟩]).1.dependencies).run
        (fun question state ↦ (KnownAnswers.none.environment.answer question, state)) ()).1.1 =
      .ok [⟨(Dependency.new "z" "1").withOverride .disabled,
        .new (.new "z" "1") .disabled [] [] none⟩] := by
    decide +kernel
  obtain ⟨corpus, hcorpus, -, -, hreport⟩ := generate_builtin hvalid [⟨"libz", .disabled⟩]
    Writer.write_accepting Writer.isCancelled_accepting hprobed
  have hshares : ¬SharesLibraryId
      ⟨[], "", "libx", "", [⟨"file", "value"⟩], none, [.new "z" "1"]⟩ := by
    rintro ⟨first, hfirst, second, hsecond, hname, -⟩
    exact hname (by rw [List.mem_singleton.mp hfirst, List.mem_singleton.mp hsecond])
  obtain ⟨report, hgenerate, hsuccess, -, hlength, hwritten, -, hrecorded⟩ := hreport hshares
  refine ⟨corpus, report, hcorpus, hgenerate, hsuccess, hlength, hwritten.trans (.of_eq ?_),
    hrecorded⟩
  decide +kernel

end Project

end Scaffold
