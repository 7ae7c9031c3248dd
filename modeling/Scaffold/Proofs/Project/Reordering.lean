import Mathlib.Data.List.Perm.Basic
import Mathlib.Data.Set.List
import Scaffold.Proofs.Artifact.Run
import Scaffold.Proofs.Dependency.Probing

/-!
# The order of entries

The order in which a project lists its types and its dependencies does not matter. Dependencies with
names of their own are probed as if there were no prober, so probing in another order finds the same
(`probeAll_of_perm`). The units that come of it are the same in another order
(`Project.Reorders.perm_allUnits`), and each has one plan (`ArtifactUnit.plan?`). Whether two
destinations are equal does not depend on an order, and the strict order of the plans leaves one way
to list them (`Project.Reorders.plan_eq`).

So a run over a reordered project writes the same artifacts in the same order
(`generate_ignores_order`).
-/

set_option autoImplicit false

namespace Scaffold

/-- The projects list the same types and the same dependencies, each in an order of its own, and
agree in everything else. -/
structure Project.Reorders (project other : Project) : Prop where
  perm_types : other.types.Perm project.types
  perm_dependencies : other.dependencies.Perm project.dependencies
  eq_rest : other = { project with types := other.types, dependencies := other.dependencies }

theorem Project.Reorders.symm {project other : Project} (hreorders : project.Reorders other) :
    other.Reorders project := by
  refine ⟨hreorders.perm_types.symm, hreorders.perm_dependencies.symm, ?_⟩
  rw [hreorders.eq_rest]

theorem Project.Reorders.nodup_names {project other : Project} (hreorders : project.Reorders other)
    (hdistinct : (project.dependencies.map (·.name)).Nodup) :
    (other.dependencies.map (·.name)).Nodup :=
  ((hreorders.perm_dependencies.map (·.name)).nodup_iff).mpr hdistinct

/-- Two computations fail alike if the success of each comes with the success of the other. -/
theorem exists_error_iff {α β : Type} {first : Except Fault α} {second : Except Fault β}
    (hsecond : ∀ outcome, first = .ok outcome → ∃ other, second = .ok other)
    (hfirst : ∀ other, second = .ok other → ∃ outcome, first = .ok outcome) :
    (∃ fault, first = .error fault) ↔ ∃ fault, second = .error fault := by
  cases first <;> cases second <;> simp_all

theorem exists_of_isOk {α : Type} {outcome : Except Fault α} (hok : outcome.isOk = true) :
    ∃ value, outcome = .ok value := by
  cases outcome with
  | ok value => exact ⟨value, rfl⟩
  | error fault => cases hok

/-! ### Probing -/

/-- What can be probed can be probed in another order, with the same findings. -/
theorem Prober.probeAll_of_perm {environment : Environment} {first second : List Dependency}
    (hperm : second.Perm first) (hdistinct : (first.map (·.name)).Nodup) {resolved : List Resolved}
    (hprobed : ((empty.probeAll first).answer environment).1 = .ok resolved) :
    ∃ others, ((empty.probeAll second).answer environment).1 = .ok others ∧
      others.Perm resolved := by
  have hfirst := (answer_probeAll_eq_ok_iff hdistinct fun _ _ ↦ rfl).mp hprobed
  have hresolutions : (second.map (resolution environment)).Perm (resolved.map .ok) :=
    hfirst ▸ hperm.map _
  -- Each of the resolutions has come to something, in the other order too.
  have hokay : second.map (resolution environment) ∈ Set.range (List.map Except.ok) := by
    rw [Set.range_list_map]
    intro resolution hresolution
    obtain ⟨found, -, hfound⟩ := List.mem_map.mp (hresolutions.mem_iff.mp hresolution)
    exact ⟨found, hfound⟩
  obtain ⟨others, hothers⟩ := hokay
  have hnames := ((hperm.map (·.name)).nodup_iff).mpr hdistinct
  refine ⟨others, (answer_probeAll_eq_ok_iff hnames fun _ _ ↦ rfl).mpr hothers.symm, ?_⟩
  rw [← hothers] at hresolutions
  exact (List.map_perm_map_iff fun _ _ ↦ Except.ok.inj).mp hresolutions

/-! ### Plans -/

/-- The plan of a unit, if it gets a destination. -/
def ArtifactUnit.plan? (unit : ArtifactUnit) : Option Plan :=
  unit.place?.map fun destination ↦ { unit with destination }

/-- Placed plans are the plans of their units. -/
theorem filterMap_plan? {plans : List Plan} (hplaced : ∀ plan ∈ plans, plan.IsPlaced) :
    (plans.map Plan.toArtifactUnit).filterMap ArtifactUnit.plan? = plans := by
  have hplan : ∀ plan ∈ plans, (ArtifactUnit.plan? ∘ Plan.toArtifactUnit) plan = some plan := by
    intro plan hmem
    have hplace : plan.toArtifactUnit.place? = some plan.destination := hplaced plan hmem
    simp [ArtifactUnit.plan?, hplace]
  rw [List.filterMap_map, List.filterMap_congr hplan, List.filterMap_some]

theorem Path.firstRepeated?_of_perm {first second : List Path} (hperm : second.Perm first)
    (hdistinct : firstRepeated? [] first = none) : firstRepeated? [] second = none := by
  rw [firstRepeated?_eq_none_iff] at hdistinct ⊢
  exact ⟨(hperm.pairwise_iff fun {_ _} hne ↦ hne.symm).mpr hdistinct.1, by simp⟩

/-- Plans that are permutations of each other, without two equal destinations, are sorted alike. -/
theorem Planning.sorted_of_perm {first second : List Plan} (hperm : second.Perm first)
    (hdistinct : Path.firstRepeated? [] (first.map Plan.destination) = none) :
    sorted ⟨second, []⟩ = sorted ⟨first, []⟩ := by
  have hascends : ∀ plans : List Plan,
      Path.firstRepeated? [] (plans.map Plan.destination) = none →
        (sorted ⟨plans, []⟩).plans.Pairwise fun first second ↦
          first.destination.order second.destination = .lt := by
    intro plans hnone
    have hdifferent := (Path.firstRepeated?_eq_none_iff.mp hnone).1
    rw [List.pairwise_map] at hdifferent
    exact pairwise_sorted hdifferent
  have hsame : (sorted ⟨second, []⟩).plans.Perm (sorted ⟨first, []⟩).plans :=
    ((sorted_perm _).trans hperm).trans (sorted_perm _).symm
  have hplans := hsame.eq_of_pairwise
    (fun one other _ _ hbefore hafter ↦ absurd hafter (Path.order_asymm hbefore))
    (hascends second (Path.firstRepeated?_of_perm (hperm.map _) hdistinct))
    (hascends first hdistinct)
  exact congrArg (Planning.mk · []) hplans

namespace Project

variable {project other : Project} {corpus : Corpus} {resolved others : List Resolved}

theorem Reorders.libraryTokens_eq (hreorders : project.Reorders other) :
    other.libraryTokens = project.libraryTokens := by
  rw [hreorders.eq_rest]
  rfl

/-- The units of a reordered project are the same in another order. -/
theorem Reorders.perm_allUnits (hreorders : project.Reorders other) (corpus : Corpus)
    (hperm : others.Perm resolved) :
    (other.allUnits corpus others).Perm (project.allUnits corpus resolved) := by
  have htokens := hreorders.libraryTokens_eq
  have htypes : (other.testUnits corpus).Perm (project.testUnits corpus) := by
    have htoken : other.typeTokens = project.typeTokens := by
      funext type
      rw [typeTokens, typeTokens, htokens]
    rw [testUnits, testUnits, htoken]
    split
    · exact .refl _
    · exact hreorders.perm_types.map _
  have hmacro : other.macroTokens = project.macroTokens := by
    funext dependency
    rw [macroTokens, macroTokens, htokens]
  rw [allUnits, allUnits, htokens, hmacro]
  exact ((htypes.append_left _)).append (hperm.flatMap_right _)

/-- Planning a reordered project gives the same plans. -/
theorem Reorders.plan_eq (hreorders : project.Reorders other) (hperm : others.Perm resolved)
    {planning : Planning} (hplan : project.plan corpus resolved = .ok planning) :
    other.plan corpus others = .ok planning := by
  cases hcomplete : corpus.missingSection? with
  | some name => simp [plan_of_missingSection hcomplete] at hplan
  | none =>
    obtain ⟨plans, hunits, hplaced, heq⟩ := exists_plan_eq project resolved hcomplete
    obtain ⟨replans, hreunits, hreplaced, hreeq⟩ := exists_plan_eq other others hcomplete
    have hplans : replans.Perm plans := by
      rw [← filterMap_plan? hplaced, ← filterMap_plan? hreplaced, hunits, hreunits]
      exact (hreorders.perm_allUnits corpus hperm).filterMap _
    cases hrepeated : Path.firstRepeated? [] (plans.map Plan.destination) with
    | some path => simp [heq, hrepeated] at hplan
    | none =>
      rw [hrepeated, hplan] at heq
      rw [Path.firstRepeated?_of_perm (hplans.map _) hrepeated] at hreeq
      rw [hreeq, Planning.sorted_of_perm hplans hrepeated, ← heq]

/-! ### Runs -/

/-- A project is prepared if its dependencies are probed and its artifacts are planned. -/
theorem answer_prepare_eq_ok_iff {environment : Environment} {prober : Prober}
    {prepared : Prepared} :
    ((project.prepare corpus prober).answer environment).1 = .ok prepared ↔
      ((prober.probeAll project.dependencies).answer environment).1 = .ok prepared.dependencies ∧
        project.plan corpus prepared.dependencies = .ok prepared.planning := by
  obtain ⟨dependencies, planning⟩ := prepared
  rw [prepare, Inquiry.answer_bind]
  rcases (prober.probeAll project.dependencies).answer environment with ⟨fault | resolved, later⟩
  · simp [bind, Except.bind]
  · rw [Inquiry.answer_pure]
    simp only [bind, Except.bind, pure, Except.pure]
    cases hplan : project.plan corpus resolved with
    | error fault =>
      simp only [Except.ok.injEq, reduceCtorEq, false_iff, not_and]
      rintro rfl
      simp [hplan]
    | ok planning =>
      simp only [Except.ok.injEq, Prepared.mk.injEq]
      exact and_congr_right fun heq ↦ by rw [← heq, hplan, Except.ok.injEq]

/-- A reordered project is prepared with the same plans. -/
theorem Reorders.exists_prepared (hreorders : project.Reorders other)
    (hdistinct : (project.dependencies.map (·.name)).Nodup) {environment : Environment}
    {prepared : Prepared}
    (hprepared : ((project.prepare corpus .empty).answer environment).1 = .ok prepared) :
    ∃ dependencies, ((other.prepare corpus .empty).answer environment).1 =
        .ok ⟨dependencies, prepared.planning⟩ ∧
      dependencies.Perm prepared.dependencies := by
  obtain ⟨hprobed, hplan⟩ := answer_prepare_eq_ok_iff.mp hprepared
  obtain ⟨others, hothers, hperm⟩ :=
    Prober.probeAll_of_perm hreorders.perm_dependencies hdistinct hprobed
  exact ⟨others, answer_prepare_eq_ok_iff.mpr ⟨hothers, hreorders.plan_eq hperm hplan⟩, hperm⟩

/-- A run with a record in an environment that always answers in the same way writes what was
prepared there. -/
theorem generateRecorded_of_environment {σ : Type} (project : Project) (corpus : Corpus)
    (environment : Environment) (writer : Writer σ) (prober : Prober) (state : σ) :
    project.generateRecorded corpus (fun question state ↦ (environment.answer question, state))
        writer prober state =
      match (project.prepare corpus prober).answer environment with
      | (.error fault, prober) => (.error fault, prober, state, [])
      | (.ok prepared, prober) =>
        (.ok (prepared.produce writer.recorded (state, [])).1, prober,
          (prepared.produce writer.recorded (state, [])).2) :=
  generate_of_environment project corpus environment writer.recorded prober (state, [])

/-- A run over a reordered project does the same to the writer and its state, fails alike, and
reports the same but for the order of the dependencies. -/
theorem Reorders.generateRecorded_eq {σ : Type} (hreorders : project.Reorders other)
    (hdistinct : (project.dependencies.map (·.name)).Nodup) (corpus : Corpus)
    (environment : Environment) (writer : Writer σ) (state : σ) :
    let run (project : Project) := project.generateRecorded corpus
      (fun question state ↦ (environment.answer question, state)) writer .empty state
    (run other).2.2 = (run project).2.2 ∧
    ((∃ fault, (run project).1 = .error fault) ↔ ∃ fault, (run other).1 = .error fault) ∧
    ∀ report reordered, (run project).1 = .ok report → (run other).1 = .ok reordered →
      reordered.toWriteLog = report.toWriteLog ∧
        reordered.dependencies.Perm report.dependencies := by
  simp only [generateRecorded_of_environment]
  rcases hproject : (project.prepare corpus .empty).answer environment with
    ⟨fault | prepared, later⟩
  · -- If the other project were prepared, so would this one, which is a reordering of it.
    rcases hother : (other.prepare corpus .empty).answer environment with ⟨error | another, last⟩
    · exact ⟨rfl, by simp, by simp⟩
    · obtain ⟨dependencies, hprepared, -⟩ := hreorders.symm.exists_prepared
        (hreorders.nodup_names hdistinct) (congrArg Prod.fst hother)
      rw [hproject] at hprepared
      cases hprepared
  · obtain ⟨dependencies, hprepared, hperm⟩ :=
      hreorders.exists_prepared hdistinct (congrArg Prod.fst hproject)
    rcases hother : (other.prepare corpus .empty).answer environment with ⟨error | another, last⟩
    · rw [hother] at hprepared
      cases hprepared
    · rw [hother] at hprepared
      obtain rfl : another = ⟨dependencies, prepared.planning⟩ := Except.ok.inj hprepared
      refine ⟨rfl, by simp, ?_⟩
      rintro _ _ ⟨⟩ ⟨⟩
      exact ⟨rfl, hperm⟩

/-- The order of entries does not matter. For two projects that differ in the order of their types
and of their dependencies, which have names of their own, a prober that has found nothing fails for
both or for none. Over what it finds, planning fails for both or for none, and gives the same plans.
So a run hands the same artifacts to the writer in the same order, leaves it in the same state, and
fails for both or reports the same, the order of the dependencies aside. -/
theorem generate_ignores_order {project other : Project} (hreorders : project.Reorders other)
    (hdistinct : (project.dependencies.map (·.name)).Nodup) (corpus : Corpus)
    (environment : Environment) :
    let probed (project : Project) :=
      ((Prober.empty.probeAll project.dependencies).answer environment).1
    ((∃ fault, probed project = .error fault) ↔ ∃ fault, probed other = .error fault) ∧
    (∀ resolved others, probed project = .ok resolved → probed other = .ok others →
      others.Perm resolved ∧
      ((∃ fault, project.plan corpus resolved = .error fault) ↔
        ∃ fault, other.plan corpus others = .error fault) ∧
      ∀ planning replanning, project.plan corpus resolved = .ok planning →
        other.plan corpus others = .ok replanning → replanning = planning) ∧
    ∀ (σ : Type) (writer : Writer σ) (state : σ),
      let run (project : Project) := project.generateRecorded corpus
        (fun question state ↦ (environment.answer question, state)) writer .empty state
      (run other).2.2 = (run project).2.2 ∧
      ((∃ fault, (run project).1 = .error fault) ↔ ∃ fault, (run other).1 = .error fault) ∧
      ∀ report reordered, (run project).1 = .ok report → (run other).1 = .ok reordered →
        reordered.toWriteLog = report.toWriteLog ∧
          reordered.dependencies.Perm report.dependencies := by
  intro probed
  have hothers : ∀ resolved, probed project = .ok resolved →
      ∃ others, probed other = .ok others ∧ others.Perm resolved :=
    fun _ ↦ Prober.probeAll_of_perm hreorders.perm_dependencies hdistinct
  have hback : ∀ others, probed other = .ok others →
      ∃ resolved, probed project = .ok resolved ∧ resolved.Perm others :=
    fun _ ↦ Prober.probeAll_of_perm hreorders.perm_dependencies.symm
      (hreorders.nodup_names hdistinct)
  refine ⟨exists_error_iff (fun resolved hprobed ↦ ?_) (fun others hprobed ↦ ?_),
    fun resolved others hresolved hprobed ↦ ?_,
    fun σ writer state ↦ hreorders.generateRecorded_eq hdistinct corpus environment writer state⟩
  · obtain ⟨others, hok, -⟩ := hothers resolved hprobed
    exact ⟨others, hok⟩
  · obtain ⟨resolved, hok, -⟩ := hback others hprobed
    exact ⟨resolved, hok⟩
  · obtain ⟨found, hok, hperm⟩ := hothers resolved hresolved
    obtain rfl : found = others := Except.ok.inj (hok.symm.trans hprobed)
    refine ⟨hperm, exists_error_iff (fun planning hplan ↦ ?_) (fun replanning hplan ↦ ?_),
      fun planning replanning hplan hreplan ↦ ?_⟩
    · exact ⟨planning, hreorders.plan_eq hperm hplan⟩
    · exact ⟨replanning, hreorders.symm.plan_eq hperm.symm hplan⟩
    · exact Except.ok.inj (hreplan.symm.trans (hreorders.plan_eq hperm hplan))

/-- Two types and two dependencies, listed in either order, come to the same four plans. -/
theorem generate_ignores_order_of_two :
    let corpus : Corpus := ⟨Table.ofList <| ("m4/x.m4", ⟨"m4/x.m4", []⟩) ::
      Corpus.sectionNames.map fun name ↦ (name, ⟨name, [.placeholder "type_name"]⟩)⟩
    let project : Project := ⟨[], "", "libx", "", [⟨"file", "value"⟩, ⟨"item", "value"⟩], none,
      [.new "y" "1", .new "z" "1"]⟩
    let other : Project := ⟨[], "", "libx", "", [⟨"item", "value"⟩, ⟨"file", "value"⟩], none,
      [.new "z" "1", .new "y" "1"]⟩
    project.Reorders other ∧ (project.dependencies.map (·.name)).Nodup ∧
    ∃ resolved planning,
      ((Prober.empty.probeAll project.dependencies).answer KnownAnswers.none.environment).1 =
        .ok resolved ∧
      ((Prober.empty.probeAll other.dependencies).answer KnownAnswers.none.environment).1 =
        .ok resolved.reverse ∧
      project.plan corpus resolved = .ok planning ∧ planning.plans.length = 4 ∧
      other.plan corpus resolved.reverse = .ok planning := by
  intro corpus project other
  have hreorders : project.Reorders other := ⟨.swap .., .swap .., rfl⟩
  have hdistinct : (project.dependencies.map (·.name)).Nodup := by decide
  let resolved : List Resolved := project.dependencies.map fun dependency ↦
    ⟨dependency, dependency.fallback⟩
  have hprobed :
      ((Prober.empty.probeAll project.dependencies).answer KnownAnswers.none.environment).1 =
        .ok resolved := by
    decide +kernel
  have hreprobed :
      ((Prober.empty.probeAll other.dependencies).answer KnownAnswers.none.environment).1 =
        .ok resolved.reverse := by
    decide +kernel
  obtain ⟨planning, hplan⟩ : ∃ planning, project.plan corpus resolved = .ok planning :=
    exists_of_isOk (by decide +kernel)
  obtain ⟨replanning, hreplan⟩ :
      ∃ replanning, other.plan corpus resolved.reverse = .ok replanning :=
    exists_of_isOk (by decide +kernel)
  obtain ⟨-, -, hplans⟩ := (generate_ignores_order hreorders hdistinct corpus
    KnownAnswers.none.environment).2.1 resolved resolved.reverse hprobed hreprobed
  have hsame : replanning = planning := hplans planning replanning hplan hreplan
  have hcount : (project.allUnits corpus resolved).length = 4 := by decide +kernel
  obtain ⟨-, -, hunits⟩ := perm_units_of_plan hplan
  refine ⟨hreorders, hdistinct, resolved, planning, hprobed, hreprobed, hplan, ?_,
    hsame ▸ hreplan⟩
  rw [← hcount, ← hunits.length_eq, List.length_map]

end Project

end Scaffold
