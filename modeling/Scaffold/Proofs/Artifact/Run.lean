import Scaffold.Artifact.Run
import Scaffold.Proofs.Artifact.Planning
import Scaffold.Proofs.Artifact.Rendering
import Scaffold.Proofs.Dependency.Probing

/-!
# A run aborts cleanly or isolates failures

A run that fails does so while probing or planning, before the first artifact is handed to the
writer; a run that goes through reports failures of single artifacts alone
(`generate_aborts_or_isolates`). The errors that could break this, a clash of tokens, a malformed
destination and a plan without templates, do not come up.

That the writer is not called is said with a record. `Writer.recorded` writes as its writer does and
keeps a list of what it was called with, and a run with a record is otherwise the same run
(`generateRecorded_eq`).
-/

set_option autoImplicit false

namespace Scaffold

variable {σ : Type}

/-! ### Recording calls of the writer -/

/-- The answers, next to a record that they leave as it is. -/
def Question.besideRecord (answer : (question : Question) → σ → question.Answer × σ)
    (question : Question) (state : σ × List Artifact) : question.Answer × σ × List Artifact :=
  ((answer question state.1).1, (answer question state.1).2, state.2)

theorem Inquiry.run_besideRecord {α : Type} (inquiry : Inquiry α)
    (answer : (question : Question) → σ → question.Answer × σ) (state : σ)
    (record : List Artifact) :
    inquiry.run (Question.besideRecord answer) (state, record) =
      ((inquiry.run answer state).1, (inquiry.run answer state).2, record) := by
  induction inquiry generalizing state with
  | done outcome => rfl
  | ask question next ih => exact ih (answer question state).1 (answer question state).2

namespace Writer

/-- The writer with a record of what it was called with. -/
def recorded (writer : Writer σ) : Writer (σ × List Artifact) where
  write artifact state :=
    ((writer.write artifact state.1).1, (writer.write artifact state.1).2, state.2 ++ [artifact])
  isCancelled state := writer.isCancelled state.1

/-- The artifacts that the writer is called with. -/
def calls (writer : Writer σ) : List (Path × Except Fault Artifact) → σ → List Artifact
  | [], _ => []
  | (_, rendered) :: rest, state =>
    if writer.isCancelled state then []
    else rendered.toOption.toList ++ writer.calls rest (writer.writeRendered rendered state).2

theorem writeRendered_recorded (writer : Writer σ) (rendered : Except Fault Artifact) (state : σ)
    (record : List Artifact) :
    writer.recorded.writeRendered rendered (state, record) =
      ((writer.writeRendered rendered state).1, (writer.writeRendered rendered state).2,
        record ++ rendered.toOption.toList) := by
  cases rendered with
  | error fault => simp [writeRendered, Except.toOption]
  | ok artifact => simp [writeRendered, recorded, Except.toOption]

/-- A recorded writer logs what its writer logs, and records its calls. -/
theorem writeAll_recorded (writer : Writer σ) (tasks : List (Path × Except Fault Artifact))
    (state : σ) (record : List Artifact) :
    writer.recorded.writeAll tasks (state, record) =
      ((writer.writeAll tasks state).1, (writer.writeAll tasks state).2,
        record ++ writer.calls tasks state) := by
  induction tasks generalizing state record with
  | nil => simp [writeAll, calls]
  | cons task rest ih =>
    obtain ⟨destination, rendered⟩ := task
    have hcancelled : writer.recorded.isCancelled (state, record) = writer.isCancelled state := rfl
    rw [writeAll, writeAll, calls, hcancelled]
    cases writer.isCancelled state with
    | true => simp
    | false =>
      simp only [Bool.false_eq_true, if_false, writeRendered_recorded, ih]
      cases (writer.writeRendered rendered state).1 <;> simp

end Writer

theorem Prepared.produce_recorded (prepared : Prepared) (writer : Writer σ) (state : σ)
    (record : List Artifact) :
    prepared.produce writer.recorded (state, record) =
      ((prepared.produce writer state).1, (prepared.produce writer state).2,
        record ++ writer.calls (Plan.renderAll prepared.planning.plans) state) := by
  simp only [produce, Writer.writeAll_recorded]

namespace Project

/-- The run with a record of what the writer was called with. -/
def generateRecorded (project : Project) (corpus : Corpus)
    (answer : (question : Question) → σ → question.Answer × σ) (writer : Writer σ)
    (prober : Prober) (state : σ) : Except Fault Report × Prober × σ × List Artifact :=
  project.generate corpus (Question.besideRecord answer) writer.recorded prober (state, [])

/-- A run with a record is the run, and the record is empty if the run fails. -/
theorem generateRecorded_eq (project : Project) (corpus : Corpus)
    (answer : (question : Question) → σ → question.Answer × σ) (writer : Writer σ)
    (prober : Prober) (state : σ) :
    ∃ record, project.generateRecorded corpus answer writer prober state =
        ((project.generate corpus answer writer prober state).1,
          (project.generate corpus answer writer prober state).2.1,
          (project.generate corpus answer writer prober state).2.2, record) ∧
      ∀ fault, (project.generate corpus answer writer prober state).1 = .error fault →
        record = [] := by
  rw [generateRecorded, generate, generate, Inquiry.run_besideRecord]
  rcases (project.prepare corpus prober).run answer state with ⟨⟨fault | prepared, later⟩, last⟩
  · exact ⟨[], rfl, fun _ _ ↦ rfl⟩
  · refine ⟨[] ++ writer.calls (Plan.renderAll prepared.planning.plans) last, ?_, nofun⟩
    simp only [Prepared.produce_recorded]

/-! ### Errors that end a run -/

/-- Planning fails with an error of its own, or leaves no unit over and has no plan without
templates. -/
theorem plan_outcome (project : Project) (corpus : Corpus) (resolved : List Resolved) :
    (∃ fault, project.plan corpus resolved = .error fault ∧ fault.stage? = some .planning) ∨
      ∃ planning, project.plan corpus resolved = .ok planning ∧ planning.failures = [] ∧
        ∀ plan ∈ planning.plans, plan.templates ≠ [] := by
  cases hmissing : corpus.missingSection? with
  | some name => exact .inl ⟨_, plan_of_missingSection hmissing, rfl⟩
  | none =>
    obtain ⟨plans, -, hplaced, hplan⟩ := exists_plan_eq project resolved hmissing
    cases hrepeated : Path.firstRepeated? [] (plans.map Plan.destination) with
    | some path =>
      rw [hrepeated] at hplan
      exact .inl ⟨_, hplan, rfl⟩
    | none =>
      rw [hrepeated] at hplan
      refine .inr ⟨_, hplan, rfl, fun plan hkept ↦ ?_⟩
      have hmem := (Planning.mk plans []).sorted_perm.mem_iff.mp hkept
      obtain ⟨first, rest, htemplates, -⟩ := (hplaced plan hmem).exists_first
      simp [htemplates]

/-- What a preparation comes to: an error that ends the run, or a planning that leaves nothing
over and has no plan without templates. -/
def IsPrepared : Except Fault Prepared → Prop
  | .error fault => ∃ stage : Stage, fault.stage? = some stage ∧ stage.endsRun = true
  | .ok prepared =>
    prepared.planning.failures = [] ∧ ∀ plan ∈ prepared.planning.plans, plan.templates ≠ []

theorem prepare_ends (project : Project) (corpus : Corpus) (prober : Prober) :
    (project.prepare corpus prober).Ends fun answer ↦ IsPrepared answer.1 := by
  rw [prepare]
  refine Dialogue.ends_bind.mpr
    ((prober.probeAll_ends project.dependencies).mono fun probed hprobed ↦ ?_)
  rcases probed with ⟨fault | resolved, later⟩
  · exact ⟨.probing, hprobed, rfl⟩
  -- Past probing the outcome depends on the findings only, and planning asks no questions.
  · simp only [bind, Except.bind]
    rcases plan_outcome project corpus resolved with ⟨fault, hplan, hstage⟩ | ⟨planning, hplan, hok⟩
    · rw [hplan]
      exact ⟨.planning, hstage, rfl⟩
    · rw [hplan]
      exact hok

end Project

/-! ### Failures that a run reports -/

/-- The writer has no errors but those of writing. -/
def Writer.FailsOnlyWriting (writer : Writer σ) : Prop :=
  ∀ artifact state fault, (writer.write artifact state).1 = .error fault →
    ∃ path cause, fault = .writeFailure path cause

/-- A failure spoils one artifact: it comes from rendering or from writing. -/
def UnitFailure.IsIsolated (failure : UnitFailure) : Prop :=
  failure.fault.stage? = some .rendering ∨ failure.fault.stage? = some .writing

namespace Writer

/-- What is reported for a task is its own error or the error of the writer. -/
theorem isIsolated_of_writeRendered {writer : Writer σ} (hwriter : writer.FailsOnlyWriting)
    {rendered : Except Fault Artifact} (hrendered : FailsOnly .rendering rendered) {state : σ}
    {unit : String} {fault : Fault}
    (hfault : (writer.writeRendered rendered state).1 = .error fault) :
    UnitFailure.IsIsolated ⟨unit, fault⟩ := by
  cases rendered with
  | error rendering =>
    rw [writeRendered, Except.error.injEq] at hfault
    subst hfault
    exact .inl hrendered
  | ok artifact =>
    cases hwrite : (writer.write artifact state).1 with
    | ok done => simp [writeRendered, hwrite, Except.map] at hfault
    | error writing =>
      obtain ⟨path, cause, rfl⟩ := hwriter artifact state writing hwrite
      simp only [writeRendered, hwrite, Except.map, Except.error.injEq] at hfault
      subst hfault
      exact .inr rfl

/-- Every failure of a writing loop spoils one artifact. -/
theorem isIsolated_of_writeAll {writer : Writer σ} (hwriter : writer.FailsOnlyWriting)
    {tasks : List (Path × Except Fault Artifact)}
    (htasks : ∀ task ∈ tasks, FailsOnly .rendering task.2) (state : σ) :
    ∀ failure ∈ (writer.writeAll tasks state).1.failures, failure.IsIsolated := by
  induction tasks generalizing state with
  | nil => simp [writeAll]
  | cons task rest ih =>
    obtain ⟨destination, rendered⟩ := task
    have hrest := ih (fun other hother ↦ htasks other (List.mem_cons_of_mem _ hother))
      (writer.writeRendered rendered state).2
    rw [writeAll]
    cases writer.isCancelled state with
    | true => simp
    | false =>
      simp only [Bool.false_eq_true, if_false]
      cases houtcome : (writer.writeRendered rendered state).1 with
      | ok kind => exact hrest
      | error fault =>
        refine List.forall_mem_cons.mpr ⟨?_, hrest⟩
        exact isIsolated_of_writeRendered hwriter (htasks _ List.mem_cons_self) houtcome

end Writer

theorem Prepared.isIsolated_of_produce {prepared : Prepared} {writer : Writer σ}
    (hwriter : writer.FailsOnlyWriting) (hprepared : Project.IsPrepared (.ok prepared))
    (state : σ) : ∀ failure ∈ (prepared.produce writer state).1.failures, failure.IsIsolated := by
  obtain ⟨hfailures, htemplates⟩ := hprepared
  have htasks : ∀ task ∈ Plan.renderAll prepared.planning.plans, FailsOnly .rendering task.2 := by
    rw [Plan.renderAll_eq]
    intro task htask
    obtain ⟨plan, hplan, rfl⟩ := List.mem_map.mp htask
    exact Plan.render_failsOnly (htemplates plan hplan)
  rw [produce, hfailures]
  exact Writer.isIsolated_of_writeAll hwriter htasks state

theorem UnitFailure.isIsolated_iff {failure : UnitFailure} :
    failure.IsIsolated ↔
      (∃ token template, failure.fault = .unresolvedToken token template) ∨
        ∃ path cause, failure.fault = .writeFailure path cause := by
  obtain ⟨unit, fault⟩ := failure
  cases fault <;> simp [IsIsolated, Fault.stage?]

theorem UnitFailure.stopsRun_of_isIsolated {failure : UnitFailure}
    (hisolated : failure.IsIsolated) : failure.fault.stopsRun = false := by
  rcases hisolated with hstage | hstage <;> rw [Fault.stopsRun_eq hstage] <;> rfl

/-- A writer that may not write anywhere. -/
def Writer.refusing : Writer Unit where
  write artifact state := (.error (.writeFailure artifact.destination .denied), state)
  isCancelled _ := false

theorem Writer.refusing_failsOnlyWriting : refusing.FailsOnlyWriting :=
  fun artifact _ _ hfault ↦ ⟨artifact.destination, .denied, (Except.error.inj hfault).symm⟩

/-! ### Runs -/

namespace Project

variable (project : Project) (corpus : Corpus)
  (answer : (question : Question) → σ → question.Answer × σ)

theorem generate_eq_error {writer : Writer σ} {prober : Prober} {state : σ} {fault : Fault}
    (hfault : (project.generate corpus answer writer prober state).1 = .error fault) :
    ∃ stage : Stage, fault.stage? = some stage ∧ stage.endsRun = true := by
  have hprepared := (prepare_ends project corpus prober).run answer state
  rw [generate] at hfault
  rcases hrun : (project.prepare corpus prober).run answer state with
    ⟨⟨error | prepared, later⟩, last⟩
  · rw [hrun] at hfault hprepared
    simp only [Except.error.injEq] at hfault
    subst hfault
    exact hprepared
  · simp [hrun] at hfault

theorem generate_eq_ok {writer : Writer σ} {prober : Prober} {state : σ} {report : Report}
    (hwriter : writer.FailsOnlyWriting)
    (hreport : (project.generate corpus answer writer prober state).1 = .ok report) :
    ∀ failure ∈ report.failures, failure.IsIsolated := by
  have hprepared := (prepare_ends project corpus prober).run answer state
  rw [generate] at hreport
  rcases hrun : (project.prepare corpus prober).run answer state with
    ⟨⟨error | prepared, later⟩, last⟩
  · simp [hrun] at hreport
  · rw [hrun] at hreport hprepared
    simp only [Except.ok.injEq] at hreport
    subst hreport
    exact prepared.isIsolated_of_produce hwriter hprepared last

/-- A run aborts cleanly or isolates failures. If it fails, it does so with an error that stops a
run, and the writer was never called; if it goes through, no failure that it reports would have
stopped it. Nothing clashes on the way, no destination is malformed, and no plan is without
templates. -/
theorem generate_aborts_or_isolates {writer : Writer σ} (hwriter : writer.FailsOnlyWriting)
    (prober : Prober) (state : σ) :
    (∃ record, project.generateRecorded corpus answer writer prober state =
        ((project.generate corpus answer writer prober state).1,
          (project.generate corpus answer writer prober state).2.1,
          (project.generate corpus answer writer prober state).2.2, record) ∧
      ∀ fault, (project.generate corpus answer writer prober state).1 = .error fault →
        fault.stopsRun = true ∧ record = []) ∧
    (∀ report, (project.generate corpus answer writer prober state).1 = .ok report →
      ∀ failure ∈ report.failures, failure.fault.stopsRun = false ∧
        ((∃ token template, failure.fault = .unresolvedToken token template) ∨
          ∃ path cause, failure.fault = .writeFailure path cause)) ∧
    (∀ fault, (project.generate corpus answer writer prober state).1 = .error fault →
      fault.stage? = some .probing ∨ fault.stage? = some .planning) ∧
    (∀ resolved : Resolved, ∃ table, TokenTable.merged project.libraryTokens
      (resolved.finding.tokens resolved.dependency) = .ok table) ∧
    (∀ type : TypeEntry, (do
      let table ← TokenTable.define project.libraryTokens "type_name" type.name
      TokenTable.define table "value_name" type.valueName) = .ok (project.typeTokens type)) ∧
    (∀ base required context token,
      Token.resolve base required context ≠ .error (.conflictingToken token)) ∧
    (∀ (kind : ArtifactKind) template table name offset reason,
      kind.destination template table ≠ .error (.malformedTemplate name offset reason)) ∧
    (∀ resolved planning, project.plan corpus resolved = .ok planning →
      ∀ plan ∈ planning.plans, plan.templates ≠ []) := by
  obtain ⟨record, hrecord, hempty⟩ :=
    generateRecorded_eq project corpus answer writer prober state
  refine ⟨⟨record, hrecord, fun fault hfault ↦ ⟨?_, hempty fault hfault⟩⟩,
    fun report hreport failure hfailure ↦ ?_, fun fault hfault ↦ ?_,
    fun resolved ↦ ⟨_, merged_tokens project resolved⟩, define_typeTokens project,
    fun base required context token hconflict ↦ ?_,
    fun kind template table name offset reason hmalformed ↦ ?_,
    fun resolved planning hplanning ↦ ?_⟩
  · obtain ⟨stage, hstage, hends⟩ := generate_eq_error project corpus answer hfault
    rw [Fault.stopsRun_eq hstage, hends]
  · have hisolated := generate_eq_ok project corpus answer hwriter hreport failure hfailure
    exact ⟨UnitFailure.stopsRun_of_isIsolated hisolated, UnitFailure.isIsolated_iff.mp hisolated⟩
  · obtain ⟨stage, hstage, hends⟩ := generate_eq_error project corpus answer hfault
    cases stage with
    | probing => exact .inl hstage
    | planning => exact .inr hstage
    | rendering => simp [Stage.endsRun] at hends
    | writing => simp [Stage.endsRun] at hends
  · obtain ⟨other, hother⟩ := Token.resolve_eq_error hconflict
    simp at hother
  · obtain ⟨token, htoken⟩ := ArtifactKind.destination_eq_error hmalformed
    simp at htoken
  · rcases plan_outcome project corpus resolved with ⟨fault, hplan, -⟩ | ⟨other, hplan, -, hother⟩
    · simp [hplan] at hplanning
    · rw [hplan, Except.ok.injEq] at hplanning
      rw [← hplanning]
      exact hother

/-- A run whose only artifact is refused by the writer goes through and reports the refusal. -/
theorem generate_isolates_refusal :
    ∃ report,
      (generate ⟨[], "", "libexample", "", [], none, []⟩
        ⟨Table.ofList [("libyal/types.h", ⟨"libyal/types.h", [.placeholder "library_name"]⟩)]⟩
        (fun question state ↦ (KnownAnswers.none.environment.answer question, state))
        Writer.refusing Prober.empty ()).1 = .ok report ∧
      report.failures = [⟨"libexample/libexample_types.h",
        .writeFailure ⟨"libexample/libexample_types.h"⟩ .denied⟩] ∧
      ∀ failure ∈ report.failures, failure.fault.stopsRun = false := by
  have hreport : (generate ⟨[], "", "libexample", "", [], none, []⟩
        ⟨Table.ofList [("libyal/types.h", ⟨"libyal/types.h", [.placeholder "library_name"]⟩)]⟩
        (fun question state ↦ (KnownAnswers.none.environment.answer question, state))
        Writer.refusing Prober.empty ()).1 =
      .ok ⟨⟨[], [⟨"libexample/libexample_types.h",
        .writeFailure ⟨"libexample/libexample_types.h"⟩ .denied⟩], false⟩, []⟩ := by
    decide +kernel
  refine ⟨_, hreport, rfl, fun failure hfailure ↦ ?_⟩
  exact ((generate_aborts_or_isolates _ _ _ Writer.refusing_failsOnlyWriting _ _).2.1 _ hreport
    failure hfailure).1

end Project

end Scaffold
