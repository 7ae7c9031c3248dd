import Scaffold.Proofs.Project.Destinations
import Scaffold.Proofs.Project.Reordering

/-!
# Units do not leak into each other

A unit is made of the corpus, the tokens of the library, and the type or the resolved dependency it
is for. So the units of a library source or a header stub, of one type and of one dependency can be
listed without looking at the rest of the project (`filter_kind`, `filter_type`,
`filter_dependency`). For a type and a dependency this takes a planning that succeeds: then no
other type has the name, and no other dependency the macro file (`nodup_names_of_plan`,
`nodup_libraryIds_of_plan`).

A plan is its unit with the destination of the unit, and the order of plans is strict, so two
plannings with the same units for a choice have the same plans for it, in the same order
(`plansFor_eq`). What comes of them is the same (`plans_do_not_leak`).
-/

set_option autoImplicit false

namespace Scaffold

/-- The projects describe the same library, whatever types and dependencies it has. -/
structure Project.SameLibrary (project other : Project) : Prop where
  authors : other.authors = project.authors
  copyright : other.copyright = project.copyright
  libraryName : other.libraryName = project.libraryName
  description : other.description = project.description
  moduleName : other.moduleName = project.moduleName

/-- A choice of units by their kind and their tokens. -/
abbrev UnitChoice :=
  ArtifactKind → TokenTable → Bool

namespace UnitChoice

/-- The units of a kind. -/
def kind (kind : ArtifactKind) : UnitChoice :=
  fun other _ ↦ other == kind

/-- The tests of a type of that name. -/
def type (name : String) : UnitChoice :=
  fun kind base ↦ kind == .testSource && base.find? "type_name" == some name

/-- The macro files of a dependency with that library id. -/
def dependency (libraryId : String) : UnitChoice :=
  fun kind base ↦ kind == .buildMacro && base.find? "library_id" == some libraryId

/-- The unit is one of the chosen. -/
def takes (choice : UnitChoice) (unit : ArtifactUnit) : Bool :=
  choice unit.kind unit.base

end UnitChoice

namespace Planning

/-- The plans of the chosen units. -/
def plansFor (planning : Planning) (choice : UnitChoice) : List Plan :=
  planning.plans.filter fun plan ↦ choice.takes plan.toArtifactUnit

/-- What rendering the plans of the chosen units comes to, in plan order. -/
def outcomes (planning : Planning) (choice : UnitChoice) : List (Path × Except Fault Artifact) :=
  Plan.renderAll (planning.plansFor choice)

end Planning

/-- Among values with marks of their own one has the mark of a member: the member. -/
theorem filter_eq_singleton {α : Type} {mark : α → String} {values : List α} {value : α}
    (hdistinct : (values.map mark).Nodup) (hmem : value ∈ values) :
    (values.filter fun other ↦ mark other == mark value) = [value] := by
  have hperm : (values.filter fun other ↦ mark other == mark value).Perm [value] := by
    refine (List.perm_ext_iff_of_nodup ((List.Nodup.of_map mark hdistinct).filter _)
      (List.nodup_singleton value)).mpr fun other ↦ ?_
    rw [List.mem_filter, beq_iff_eq, List.mem_singleton]
    constructor
    · rintro ⟨hother, hmark⟩
      exact List.inj_on_of_nodup_map hdistinct hother hmem hmark
    · rintro rfl
      exact ⟨hmem, rfl⟩
  exact List.perm_singleton.mp hperm

namespace Project

variable {project other : Project} {corpus : Corpus} {resolved others : List Resolved}
  {planning replanning : Planning} {choice : UnitChoice}

/-! ### Tokens of the same library -/

theorem SameLibrary.libraryTokens_eq (hsame : project.SameLibrary other) :
    other.libraryTokens = project.libraryTokens := by
  rw [libraryTokens, libraryTokens, hsame.authors, hsame.copyright, hsame.libraryName,
    hsame.description, hsame.moduleName]

theorem SameLibrary.typeTokens_eq (hsame : project.SameLibrary other) (type : TypeEntry) :
    other.typeTokens type = project.typeTokens type := by
  rw [typeTokens, typeTokens, hsame.libraryTokens_eq]

theorem SameLibrary.macroTokens_eq (hsame : project.SameLibrary other) (dependency : Resolved) :
    other.macroTokens dependency = project.macroTokens dependency := by
  rw [macroTokens, macroTokens, hsame.libraryTokens_eq]

/-! ### Plans of chosen units -/

/-- The plans that planning gives ascend strictly. -/
theorem pairwise_of_plan (hplan : project.plan corpus resolved = .ok planning) :
    planning.plans.Pairwise fun first second ↦
      first.destination.order second.destination = .lt := by
  obtain ⟨hcomplete, -, -⟩ := perm_units_of_plan hplan
  obtain ⟨plans, -, -, heq⟩ := exists_plan_eq project resolved hcomplete
  rw [hplan] at heq
  cases hrepeated : Path.firstRepeated? [] (plans.map Plan.destination) with
  | some path => simp [hrepeated] at heq
  | none =>
    rw [hrepeated] at heq
    obtain rfl := Except.ok.inj heq
    have hdistinct := (Path.firstRepeated?_eq_none_iff.mp hrepeated).1
    rw [List.pairwise_map] at hdistinct
    exact Planning.pairwise_sorted hdistinct

/-- There is one plan for each chosen unit. -/
theorem perm_plansFor (hplan : project.plan corpus resolved = .ok planning)
    (choice : UnitChoice) :
    ((planning.plansFor choice).map Plan.toArtifactUnit).Perm
      ((project.allUnits corpus resolved).filter choice.takes) := by
  obtain ⟨-, -, hperm⟩ := perm_units_of_plan hplan
  have hfilter := hperm.filter choice.takes
  rwa [List.filter_map] at hfilter

/-- Two plannings with the same chosen units have the same plans for them. -/
theorem plansFor_eq (hplan : project.plan corpus resolved = .ok planning)
    (hreplan : other.plan corpus others = .ok replanning)
    (hunits : ((other.allUnits corpus others).filter choice.takes).Perm
      ((project.allUnits corpus resolved).filter choice.takes)) :
    replanning.plansFor choice = planning.plansFor choice := by
  have hplans : ∀ {project : Project} {resolved : List Resolved} {planning : Planning},
      project.plan corpus resolved = .ok planning →
        ((planning.plansFor choice).map Plan.toArtifactUnit).filterMap ArtifactUnit.plan? =
          planning.plansFor choice := by
    intro project resolved planning hplan
    obtain ⟨-, hplaced, -⟩ := perm_units_of_plan hplan
    exact filterMap_plan? fun plan hmem ↦ hplaced plan (List.mem_of_mem_filter hmem)
  have hperm : (replanning.plansFor choice).Perm (planning.plansFor choice) := by
    rw [← hplans hplan, ← hplans hreplan]
    exact (((perm_plansFor hreplan choice).trans hunits).trans
      (perm_plansFor hplan choice).symm).filterMap _
  exact hperm.eq_of_pairwise
    (fun first second _ _ hbefore hafter ↦ absurd hafter (Path.order_asymm hbefore))
    ((pairwise_of_plan hreplan).filter _) ((pairwise_of_plan hplan).filter _)

/-! ### Units without a rival -/

/-- A planning that succeeds has no two units in one place. -/
theorem pairwise_units_of_plan (hplan : project.plan corpus resolved = .ok planning) :
    (project.allUnits corpus resolved).Pairwise fun first second ↦ ¬first.SamePlace second := by
  obtain ⟨-, hplaced, hperm⟩ := perm_units_of_plan hplan
  have hplans : planning.plans.Pairwise fun first second ↦
      ¬first.SamePlace second.toArtifactUnit := by
    refine (pairwise_of_plan hplan).imp_of_mem fun {first second} hfirst hsecond hbefore hsame ↦ ?_
    have hcomponents :=
      (ArtifactUnit.samePlace_iff (hplaced first hfirst) (hplaced second hsecond)).mp hsame
    rw [Path.order_eq_eq_iff.mpr hcomponents] at hbefore
    cases hbefore
  refine (hperm.pairwise_iff fun {first second} hdistinct hsame ↦ hdistinct ?_).mp
    (List.pairwise_map.mpr hplans)
  obtain ⟨path, other, hpath, hother, hcomponents⟩ := hsame
  exact ⟨other, path, hother, hpath, hcomponents.symm⟩

/-- If types are tested, a planning that succeeds has types with names of their own. -/
theorem nodup_names_of_plan (hplan : project.plan corpus resolved = .ok planning)
    (htests : (corpus.ofKind .testSource).isEmpty = false) :
    (project.types.map (·.name)).Nodup := by
  obtain ⟨hcomplete, -, -⟩ := perm_units_of_plan hplan
  obtain ⟨first, rest, hsections⟩ := Corpus.exists_section htests hcomplete
  have hunits : (project.testUnits corpus).Sublist (project.allUnits corpus resolved) :=
    (List.sublist_append_right _ _).trans (List.sublist_append_left _ _)
  have hpairwise := (pairwise_units_of_plan hplan).sublist hunits
  rw [testUnits, htests, if_neg Bool.false_ne_true, List.pairwise_map] at hpairwise
  rw [List.nodup_iff_pairwise_ne, List.pairwise_map]
  refine hpairwise.imp fun {type other} hdistinct hname ↦ hdistinct ?_
  rw [hsections]
  refine ⟨_, _, place?_testSource project first rest none type,
    place?_testSource project first rest none other, ?_⟩
  rw [hname]

/-- If there are macro templates, a planning that succeeds has dependencies with library ids of
their own. -/
theorem nodup_libraryIds_of_plan (hplan : project.plan corpus resolved = .ok planning)
    (hmacros : corpus.ofKind .buildMacro ≠ []) :
    (resolved.map (·.dependency.libraryId)).Nodup := by
  obtain ⟨template, htemplate⟩ := List.exists_mem_of_ne_nil _ hmacros
  have hpairwise := (pairwise_units_of_plan hplan).sublist (List.sublist_append_right _ _)
  rw [List.nodup_iff_pairwise_ne, List.pairwise_map]
  refine (List.pairwise_flatMap.mp hpairwise).2.imp fun {dependency other} hdistinct hid ↦ ?_
  refine hdistinct _ (List.mem_map_of_mem htemplate) _ (List.mem_map_of_mem htemplate) ?_
  refine ⟨_, _, place?_buildMacro project template [] _ dependency,
    place?_buildMacro project template [] _ other, ?_⟩
  rw [hid]

/-! ### The chosen units -/

theorem filter_unitEach (kind : ArtifactKind) (base : TokenTable) (finding : Option Finding) :
    (corpus.unitEach kind base finding).filter choice.takes =
      if choice kind base then corpus.unitEach kind base finding else [] := by
  have htakes : ∀ unit ∈ corpus.unitEach kind base finding,
      choice.takes unit = choice kind base := by
    intro unit hunit
    obtain ⟨template, -, rfl⟩ := List.mem_map.mp hunit
    rfl
  split
  · rename_i hchosen
    exact List.filter_eq_self.mpr fun unit hunit ↦ (htakes unit hunit).trans hchosen
  · rename_i hleft
    exact List.filter_eq_nil_iff.mpr fun unit hunit ↦ by rwa [htakes unit hunit]

/-- The chosen units, by what they are for. -/
theorem filter_allUnits (project : Project) (corpus : Corpus) (resolved : List Resolved)
    (choice : UnitChoice) :
    (project.allUnits corpus resolved).filter choice.takes =
      (if choice .librarySource project.libraryTokens then
        corpus.unitEach .librarySource project.libraryTokens none else []) ++
      (if choice .headerStub project.libraryTokens then
        corpus.unitEach .headerStub project.libraryTokens none else []) ++
      (if (corpus.ofKind .testSource).isEmpty then [] else
        (project.types.filter fun type ↦ choice .testSource (project.typeTokens type)).map
          fun type ↦ ⟨.testSource, corpus.sections, project.typeTokens type, none⟩) ++
      (resolved.filter fun dependency ↦ choice .buildMacro (project.macroTokens dependency)).flatMap
        fun dependency ↦ corpus.unitEach .buildMacro (project.macroTokens dependency)
          (some dependency.finding) := by
  have htests : (project.testUnits corpus).filter choice.takes =
      if (corpus.ofKind .testSource).isEmpty then [] else
        (project.types.filter fun type ↦ choice .testSource (project.typeTokens type)).map
          fun type ↦ ⟨.testSource, corpus.sections, project.typeTokens type, none⟩ := by
    rw [testUnits]
    split
    · rfl
    · rw [List.filter_map]
      rfl
  rw [allUnits, List.filter_append, List.filter_append, List.filter_append, List.filter_flatMap,
    filter_unitEach, filter_unitEach, htests]
  simp only [filter_unitEach]
  congr 1
  induction resolved with
  | nil => rfl
  | cons dependency rest ih =>
    rw [List.flatMap_cons, ih, List.filter_cons]
    split
    · rw [List.flatMap_cons]
    · rw [List.nil_append]

/-- The library sources and header stubs are made of the corpus and the tokens of the library. -/
theorem filter_kind (project : Project) (corpus : Corpus) (resolved : List Resolved)
    {kind : ArtifactKind} (hkind : kind = .librarySource ∨ kind = .headerStub) :
    (project.allUnits corpus resolved).filter (UnitChoice.kind kind).takes =
      corpus.unitEach kind project.libraryTokens none := by
  rcases hkind with rfl | rfl <;> simp [filter_allUnits, UnitChoice.kind]

/-- The unit of a type is made of the corpus, the tokens of the library and the type. -/
theorem filter_type (hplan : project.plan corpus resolved = .ok planning)
    {type : TypeEntry} (htype : type ∈ project.types) :
    (project.allUnits corpus resolved).filter (UnitChoice.type type.name).takes =
      if (corpus.ofKind .testSource).isEmpty then []
      else [⟨.testSource, corpus.sections, project.typeTokens type, none⟩] := by
  have hchosen : ∀ other : TypeEntry, UnitChoice.type type.name .testSource
      (project.typeTokens other) = (other.name == type.name) := by
    intro other
    simp [UnitChoice.type, find?_typeTokens_type_name]
  rw [filter_allUnits]
  simp only [hchosen]
  cases htests : (corpus.ofKind .testSource).isEmpty with
  | true => simp [UnitChoice.type]
  | false =>
    rw [filter_eq_singleton (nodup_names_of_plan hplan htests) htype]
    simp [UnitChoice.type]

/-- The units of a dependency are made of the corpus, the tokens of the library and the resolved
dependency. -/
theorem filter_dependency (hplan : project.plan corpus resolved = .ok planning)
    {dependency : Resolved} (hdependency : dependency ∈ resolved) :
    (project.allUnits corpus resolved).filter
        (UnitChoice.dependency dependency.dependency.libraryId).takes =
      corpus.unitEach .buildMacro (project.macroTokens dependency) (some dependency.finding) := by
  have hchosen : ∀ other : Resolved, UnitChoice.dependency dependency.dependency.libraryId
      .buildMacro (project.macroTokens other) =
        (other.dependency.libraryId == dependency.dependency.libraryId) := by
    intro other
    simp [UnitChoice.dependency, find?_macroTokens_library_id]
  rw [filter_allUnits]
  simp only [hchosen]
  by_cases hmacros : corpus.ofKind .buildMacro = []
  · simp [UnitChoice.dependency, Corpus.unitEach, hmacros]
  · rw [filter_eq_singleton (nodup_libraryIds_of_plan hplan hmacros) hdependency]
    simp [UnitChoice.dependency]

/-! ### Two plannings -/

/-- Plannings in which a choice comes to units of the same list have the same outcomes for it, one
for each unit. -/
theorem outcomes_eq {units : List ArtifactUnit}
    (hplan : project.plan corpus resolved = .ok planning)
    (hreplan : other.plan corpus others = .ok replanning)
    (hunits : (project.allUnits corpus resolved).filter choice.takes = units)
    (hreunits : (other.allUnits corpus others).filter choice.takes = units) :
    replanning.outcomes choice = planning.outcomes choice ∧
      (planning.outcomes choice).length = units.length := by
  have hplans : replanning.plansFor choice = planning.plansFor choice :=
    plansFor_eq hplan hreplan (by rw [hunits, hreunits])
  refine ⟨by rw [Planning.outcomes, Planning.outcomes, hplans], ?_⟩
  have hlength := (perm_plansFor hplan choice).length_eq
  rw [hunits, List.length_map] at hlength
  rw [Planning.outcomes, Plan.renderAll_eq, List.length_map, hlength]

/-- Units do not leak into each other. Two projects that describe the same library are planned over
one corpus, with dependencies resolved in any way. The library sources and header stubs come to the
same, one for each template, whatever the types and the dependencies are. The test of a type that
both have comes to the same, whatever the other types and the dependencies are. The macro files of a
dependency that both have, with the same finding, come to the same, whatever the types and the other
dependencies are. -/
theorem plans_do_not_leak (hsame : project.SameLibrary other)
    (hplan : project.plan corpus resolved = .ok planning)
    (hreplan : other.plan corpus others = .ok replanning) :
    (∀ kind, kind = .librarySource ∨ kind = .headerStub →
      let choice := UnitChoice.kind kind
      replanning.outcomes choice = planning.outcomes choice ∧
        (planning.outcomes choice).length = (corpus.ofKind kind).length) ∧
    (∀ type ∈ project.types, type ∈ other.types →
      let choice := UnitChoice.type type.name
      replanning.outcomes choice = planning.outcomes choice ∧
        (planning.outcomes choice).length =
          if (corpus.ofKind .testSource).isEmpty then 0 else 1) ∧
    ∀ dependency ∈ resolved, dependency ∈ others →
      let choice := UnitChoice.dependency dependency.dependency.libraryId
      replanning.outcomes choice = planning.outcomes choice ∧
        (planning.outcomes choice).length = (corpus.ofKind .buildMacro).length := by
  refine ⟨fun kind hkind ↦ ?_, fun type htype hother ↦ ?_, fun dependency hmem hother ↦ ?_⟩
  · have hreunits := filter_kind other corpus others hkind
    rw [hsame.libraryTokens_eq] at hreunits
    have houtcomes := outcomes_eq hplan hreplan (filter_kind project corpus resolved hkind) hreunits
    rwa [Corpus.unitEach, List.length_map] at houtcomes
  · have hreunits := filter_type hreplan hother
    rw [hsame.typeTokens_eq] at hreunits
    have houtcomes := outcomes_eq hplan hreplan (filter_type hplan htype) hreunits
    rwa [apply_ite List.length] at houtcomes
  · have hreunits := filter_dependency hreplan hother
    rw [hsame.macroTokens_eq] at hreunits
    have houtcomes := outcomes_eq hplan hreplan (filter_dependency hplan hmem) hreunits
    rwa [Corpus.unitEach, List.length_map] at houtcomes

/-- A type and a dependency are planned beside others and without them. -/
theorem plans_do_not_leak_beside_others :
    let corpus : Corpus := ⟨Table.ofList <| ("m4/x.m4", ⟨"m4/x.m4", []⟩) ::
      ("libyal/x.h", ⟨"libyal/x.h", [.placeholder "library_name"]⟩) ::
      Corpus.sectionNames.map fun name ↦ (name, ⟨name, [.placeholder "type_name"]⟩)⟩
    let project : Project :=
      ⟨[], "", "libx", "", [⟨"file", "value"⟩, ⟨"item", "value"⟩], none, []⟩
    let other : Project := ⟨[], "", "libx", "", [⟨"file", "value"⟩], none, []⟩
    let resolution (dependency : Dependency) : Resolved := ⟨dependency, dependency.fallback⟩
    let resolved := [resolution (.new "y" "1"), resolution (.new "z" "1")]
    let others := [resolution (.new "y" "1")]
    project.SameLibrary other ∧
    ∃ planning replanning, project.plan corpus resolved = .ok planning ∧
      other.plan corpus others = .ok replanning ∧
      ∀ choice ∈ [UnitChoice.kind .librarySource, UnitChoice.type "file",
          UnitChoice.dependency "liby"],
        replanning.outcomes choice = planning.outcomes choice ∧
          (planning.outcomes choice).length = 1 := by
  intro corpus project other resolution resolved others
  have hsame : project.SameLibrary other := ⟨rfl, rfl, rfl, rfl, rfl⟩
  obtain ⟨planning, hplan⟩ : ∃ planning, project.plan corpus resolved = .ok planning :=
    exists_of_isOk (by decide +kernel)
  obtain ⟨replanning, hreplan⟩ : ∃ replanning, other.plan corpus others = .ok replanning :=
    exists_of_isOk (by decide +kernel)
  obtain ⟨hkinds, htypes, hdependencies⟩ := plans_do_not_leak hsame hplan hreplan
  refine ⟨hsame, planning, replanning, hplan, hreplan, fun choice hchoice ↦ ?_⟩
  simp only [List.mem_cons, List.not_mem_nil, or_false] at hchoice
  rcases hchoice with rfl | rfl | rfl
  · have hcount : (corpus.ofKind .librarySource).length = 1 := by decide +kernel
    exact hcount ▸ hkinds .librarySource (.inl rfl)
  · have htested : (corpus.ofKind .testSource).isEmpty = false := by decide +kernel
    have houtcomes := htypes ⟨"file", "value"⟩ (by decide) (by decide)
    rwa [htested] at houtcomes
  · have hcount : (corpus.ofKind .buildMacro).length = 1 := by decide +kernel
    have hid : (Dependency.new "y" "1").libraryId = "liby" := by decide
    have houtcomes := hdependencies (resolution (.new "y" "1")) List.mem_cons_self
      List.mem_cons_self
    rwa [hid, hcount] at houtcomes

end Project

end Scaffold
