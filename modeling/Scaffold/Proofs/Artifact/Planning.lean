import Scaffold.Artifact.Plan
import Scaffold.Proofs.Artifact.Destination
import Scaffold.Proofs.Path
import Scaffold.Proofs.Project.Tokens

/-!
# Planning neither loses nor doubles a unit

`Project.allUnits` lists the units of a project without a way to fail, and they are the units that
planning starts from unless the corpus tests types and lacks a section (`units_eq`). Each of them
has a destination, since what a destination needs is supplied or can be derived
(`exists_place_of_mem_allUnits`).

Placing units compares each destination with those before it, which comes to the same as comparing
every two of them (`place_eq`, `firstRepeated?_eq_none_iff`). Sorting then moves plans around and
drops none, and without two equal destinations the order is strict (`plan_covers_units`).
-/

set_option autoImplicit false

namespace Scaffold

/-! ### Sections -/

namespace Corpus

/-- The templates of those names, or the first name that the corpus lacks. -/
theorem findAll_eq (corpus : Corpus) (names : List String) :
    corpus.findAll names =
      match names.find? fun name ↦ (corpus.find? name).isNone with
      | some name => .error (.missingTemplate name)
      | none => .ok (names.filterMap corpus.find?) := by
  induction names with
  | nil => rfl
  | cons name rest ih =>
    rw [findAll, List.find?_cons]
    cases hfind : corpus.find? name with
    | none => rfl
    | some template =>
      rw [List.filterMap_cons_some hfind, ih]
      simp only [Option.isNone_some]
      cases rest.find? fun name ↦ (corpus.find? name).isNone <;> rfl

/-- The sections of a type test that the corpus has, in output order. -/
def sections (corpus : Corpus) : List Template :=
  sectionNames.filterMap corpus.find?

/-- The first section of a type test that a corpus lacks though it tests types. -/
def missingSection? (corpus : Corpus) : Option String :=
  if (corpus.ofKind .testSource).isEmpty then none
  else sectionNames.find? fun name ↦ (corpus.find? name).isNone

/-- The templates of a kind lie in the directory of the kind. -/
theorem mem_ofKind_iff {corpus : Corpus} {kind : ArtifactKind} {template : Template} :
    template ∈ corpus.ofKind kind ↔
      ∃ name, corpus.find? name = some template ∧ ArtifactKind.ofName? name = some kind := by
  simp only [ofKind, all, List.mem_map, List.mem_filter, List.mem_filterMap, find?,
    Table.find?_eq_some_iff]
  constructor
  · rintro ⟨⟨other, _⟩, ⟨⟨⟨name, found⟩, hentry, hpair⟩, hother⟩, rfl⟩
    obtain ⟨_, hkind, heq⟩ := Option.map_eq_some_iff.mp hpair
    obtain ⟨rfl, rfl⟩ := Prod.mk.inj heq
    exact ⟨name, hentry, hkind.trans (congrArg some (eq_of_beq hother))⟩
  · rintro ⟨name, hentry, hkind⟩
    exact ⟨(kind, template), ⟨⟨(name, template), hentry, by simp [hkind]⟩, by simp⟩, rfl⟩

/-- The sections of a type test lie in its directory. -/
theorem mem_ofKind_of_mem_sections {corpus : Corpus} {template : Template}
    (hsection : template ∈ corpus.sections) : template ∈ corpus.ofKind .testSource := by
  have hkinds : ∀ name ∈ sectionNames, ArtifactKind.ofName? name = some .testSource := by decide
  obtain ⟨name, hname, hfind⟩ := List.mem_filterMap.mp hsection
  exact mem_ofKind_iff.mpr ⟨name, hfind, hkinds name hname⟩

/-- A corpus that tests types and lacks no section has one. -/
theorem exists_section {corpus : Corpus} (htests : (corpus.ofKind .testSource).isEmpty = false)
    (hcomplete : corpus.missingSection? = none) :
    ∃ first rest, corpus.sections = first :: rest := by
  rw [missingSection?, htests] at hcomplete
  simp only [Bool.false_eq_true, if_false, List.find?_eq_none] at hcomplete
  obtain ⟨name, rest, hnames⟩ : ∃ name rest, sectionNames = name :: rest := ⟨_, _, rfl⟩
  have hfirst := hcomplete name (hnames ▸ List.mem_cons_self)
  cases hfind : corpus.find? name with
  | none => simp [hfind] at hfirst
  | some template => exact ⟨template, _, by rw [sections, hnames, List.filterMap_cons_some hfind]⟩

end Corpus

/-! ### Units -/

/-- One unit for each template of a kind. -/
def Corpus.unitEach (corpus : Corpus) (kind : ArtifactKind) (base : TokenTable)
    (finding : Option Finding) : List ArtifactUnit :=
  (corpus.ofKind kind).map fun template ↦ ⟨kind, [template], base, finding⟩

namespace Project

/-- One unit for each type, if the corpus tests types. -/
def testUnits (project : Project) (corpus : Corpus) : List ArtifactUnit :=
  if (corpus.ofKind .testSource).isEmpty then []
  else project.types.map fun type ↦
    ⟨.testSource, corpus.sections, project.typeTokens type, none⟩

/-- Every unit of a project: one for each library source and header stub template, one for each type
if the corpus tests types, and one for each dependency and macro template. -/
def allUnits (project : Project) (corpus : Corpus) (resolved : List Resolved) :
    List ArtifactUnit :=
  corpus.unitEach .librarySource project.libraryTokens none ++
    corpus.unitEach .headerStub project.libraryTokens none ++ project.testUnits corpus ++
    resolved.flatMap fun dependency ↦
      corpus.unitEach .buildMacro (project.macroTokens dependency) (some dependency.finding)

theorem typeUnits_eq (project : Project) (corpus : Corpus) :
    project.typeUnits corpus =
      match corpus.missingSection? with
      | some name => .error (.missingTemplate name)
      | none => .ok (project.testUnits corpus) := by
  rw [typeUnits, Corpus.missingSection?, testUnits]
  cases (corpus.ofKind .testSource).isEmpty with
  | true => rfl
  | false =>
    simp only [Bool.false_eq_true, if_false, Corpus.typeTestSections, Corpus.findAll_eq]
    cases Corpus.sectionNames.find? fun name ↦ (corpus.find? name).isNone <;> rfl

theorem macroUnits_eq (project : Project) (corpus : Corpus) (resolved : List Resolved) :
    project.macroUnits corpus resolved = .ok (resolved.flatMap fun dependency ↦
      corpus.unitEach .buildMacro (project.macroTokens dependency) (some dependency.finding)) := by
  induction resolved with
  | nil => rfl
  | cons first rest ih =>
    have hfirst : project.dependencyUnits corpus first =
        .ok (corpus.unitEach .buildMacro (project.macroTokens first) (some first.finding)) := by
      rw [dependencyUnits, merged_tokens]
      rfl
    rw [macroUnits, hfirst, ih]
    rfl

/-- The units of a project can be listed unless the corpus lacks a section. -/
theorem units_eq (project : Project) (corpus : Corpus) (resolved : List Resolved) :
    project.units corpus resolved =
      match corpus.missingSection? with
      | some name => .error (.missingTemplate name)
      | none => .ok (project.allUnits corpus resolved) := by
  rw [units, typeUnits_eq, macroUnits_eq]
  cases corpus.missingSection? <;> rfl

end Project

/-! ### Destinations -/

namespace ArtifactUnit

/-- The destination that a unit gets, if it gets one. -/
def place? (unit : ArtifactUnit) : Option Path :=
  match unit.templates with
  | [] => none
  | first :: _ => (unit.destination first.name).toOption

/-- A unit has a destination if what its destination needs is supplied or can be derived. -/
theorem exists_place {kind : ArtifactKind} {base : TokenTable} (first : Template)
    (rest : List Template) (finding : Option Finding)
    (htokens : ∀ token ∈ kind.destinationTokens,
      ∃ value, Token.meaning? base token = some value) :
    ∃ path, place? ⟨kind, first :: rest, base, finding⟩ = some path := by
  obtain ⟨table, hresolve, -, hvalues⟩ := Token.exists_resolved _ first.name htokens
  obtain ⟨path, hpath⟩ := ArtifactKind.exists_destination first.name hvalues
  refine ⟨path, ?_⟩
  simp only [place?, destination, hresolve]
  exact congrArg Except.toOption hpath

end ArtifactUnit

theorem Corpus.exists_place_of_mem_unitEach {corpus : Corpus} {kind : ArtifactKind}
    {base : TokenTable} {finding : Option Finding} {unit : ArtifactUnit}
    (htokens : ∀ token ∈ kind.destinationTokens,
      ∃ value, Token.meaning? base token = some value)
    (hunit : unit ∈ corpus.unitEach kind base finding) : ∃ path, unit.place? = some path := by
  obtain ⟨template, -, rfl⟩ := List.mem_map.mp hunit
  exact ArtifactUnit.exists_place template [] finding htokens

namespace Project

variable {project : Project} {corpus : Corpus} {resolved : List Resolved} {unit : ArtifactUnit}

theorem exists_place_of_mem_testUnits (hcomplete : corpus.missingSection? = none)
    (hunit : unit ∈ project.testUnits corpus) : ∃ path, unit.place? = some path := by
  rw [testUnits] at hunit
  cases htests : (corpus.ofKind .testSource).isEmpty with
  | true => simp [htests] at hunit
  | false =>
    rw [htests] at hunit
    obtain ⟨type, -, rfl⟩ := List.mem_map.mp hunit
    obtain ⟨first, rest, hsections⟩ := Corpus.exists_section htests hcomplete
    rw [hsections]
    exact ArtifactUnit.exists_place first rest none (exists_meaning_testSource project type)

/-- Every unit of a project has a destination. -/
theorem exists_place_of_mem_allUnits (hcomplete : corpus.missingSection? = none)
    (hunit : unit ∈ project.allUnits corpus resolved) : ∃ path, unit.place? = some path := by
  simp only [allUnits, List.mem_append, List.mem_flatMap] at hunit
  rcases hunit with ((hsource | hheader) | htest) | ⟨dependency, -, hmacro⟩
  · exact Corpus.exists_place_of_mem_unitEach (exists_meaning_librarySource project) hsource
  · exact Corpus.exists_place_of_mem_unitEach (exists_meaning_headerStub project) hheader
  · exact exists_place_of_mem_testUnits hcomplete htest
  · exact Corpus.exists_place_of_mem_unitEach (exists_meaning_buildMacro project dependency) hmacro

end Project

/-! ### Placing -/

/-- The first of some paths that is the same place as one before it, or as one of `taken`. -/
def Path.firstRepeated? : (taken : List Path) → List Path → Option Path
  | _, [] => none
  | taken, path :: rest =>
    if taken.any path.same then some path else firstRepeated? (path :: taken) rest

theorem Path.firstRepeated?_eq_none_iff {taken paths : List Path} :
    firstRepeated? taken paths = none ↔
      paths.Pairwise (fun first second ↦ first.components ≠ second.components) ∧
        ∀ path ∈ paths, ∀ earlier ∈ taken, earlier.components ≠ path.components := by
  induction paths generalizing taken with
  | nil => simp [firstRepeated?]
  | cons path rest ih =>
    have hany : taken.any path.same = true ↔
        ∃ earlier ∈ taken, path.components = earlier.components := by
      simp only [List.any_eq_true, same_iff]
    rw [firstRepeated?]
    split
    · rename_i hsame
      obtain ⟨earlier, hearlier, heq⟩ := hany.mp hsame
      refine iff_of_false (by simp) fun ⟨_, hfree⟩ ↦ ?_
      exact hfree path List.mem_cons_self earlier hearlier heq.symm
    · rename_i hfresh
      -- A path ahead of `rest` has to differ from what follows, as the taken ones do.
      rw [hany] at hfresh
      rw [ih, List.pairwise_cons]
      grind

/-- The plan has the destination that its unit gets. -/
def Plan.IsPlaced (plan : Plan) : Prop :=
  plan.place? = some plan.destination

theorem Plan.IsPlaced.exists_first {plan : Plan} (hplaced : plan.IsPlaced) :
    ∃ first rest, plan.templates = first :: rest ∧
      plan.toArtifactUnit.destination first.name = .ok plan.destination := by
  rw [IsPlaced, ArtifactUnit.place?] at hplaced
  cases htemplates : plan.templates with
  | nil => simp [htemplates] at hplaced
  | cons first rest =>
    refine ⟨first, rest, rfl, ?_⟩
    rw [htemplates] at hplaced
    cases hdestination : plan.toArtifactUnit.destination first.name with
    | error fault => simp [hdestination, Except.toOption] at hplaced
    | ok path =>
      simp only [hdestination, Except.toOption, Option.some.injEq] at hplaced
      rw [hplaced]

namespace ArtifactUnit

theorem exists_plans {units : List ArtifactUnit}
    (hplaces : ∀ unit ∈ units, ∃ path, unit.place? = some path) :
    ∃ plans : List Plan,
      plans.map Plan.toArtifactUnit = units ∧ ∀ plan ∈ plans, plan.IsPlaced := by
  induction units with
  | nil => exact ⟨[], rfl, by simp⟩
  | cons unit rest ih =>
    obtain ⟨path, hpath⟩ := hplaces unit List.mem_cons_self
    obtain ⟨plans, hunits, hplaced⟩ := ih fun other hother ↦
      hplaces other (List.mem_cons_of_mem unit hother)
    refine ⟨⟨unit, path⟩ :: plans, by rw [List.map_cons, hunits], fun plan hplan ↦ ?_⟩
    rcases List.mem_cons.mp hplan with rfl | hplan
    · exact hpath
    · exact hplaced plan hplan

/-- Placing gives each unit its destination unless a destination is repeated. -/
theorem place_eq {taken : List Path} {plans : List Plan}
    (hplaced : ∀ plan ∈ plans, plan.IsPlaced) :
    place taken (plans.map Plan.toArtifactUnit) =
      match Path.firstRepeated? taken (plans.map Plan.destination) with
      | some path => .error (.duplicateDestination path)
      | none => .ok ⟨plans, []⟩ := by
  induction plans generalizing taken with
  | nil => rfl
  | cons plan rest ih =>
    obtain ⟨first, others, htemplates, hdestination⟩ :=
      (hplaced plan List.mem_cons_self).exists_first
    have hrest : ∀ other ∈ rest, other.IsPlaced := fun other hother ↦
      hplaced other (List.mem_cons_of_mem plan hother)
    rw [List.map_cons, place, List.map_cons, Path.firstRepeated?, htemplates]
    simp only [hdestination, ih hrest]
    split
    · rfl
    · cases Path.firstRepeated? (plan.destination :: taken) (rest.map Plan.destination) <;> rfl

/-! ### Plans -/

/-- The units have destinations with equal components. -/
def SamePlace (first second : ArtifactUnit) : Prop :=
  ∃ path other, first.place? = some path ∧ second.place? = some other ∧
    path.components = other.components

/-- Two different units of a list have the same destination. -/
def Collide (units : List ArtifactUnit) : Prop :=
  ∃ i j : Nat, i < j ∧ ∃ first second, units[i]? = some first ∧ units[j]? = some second ∧
    first.SamePlace second

theorem not_collide_iff {units : List ArtifactUnit} :
    ¬ Collide units ↔ units.Pairwise fun first second ↦ ¬ first.SamePlace second := by
  rw [List.pairwise_iff_getElem]
  refine ⟨fun hdistinct i j hi hj hij hsame ↦ ?_, ?_⟩
  · exact hdistinct ⟨i, j, hij, _, _, List.getElem?_eq_getElem hi, List.getElem?_eq_getElem hj,
      hsame⟩
  · rintro hdistinct ⟨i, j, hij, first, second, hfirst, hsecond, hsame⟩
    obtain ⟨hi, rfl⟩ := List.getElem?_eq_some_iff.mp hfirst
    obtain ⟨hj, rfl⟩ := List.getElem?_eq_some_iff.mp hsecond
    exact hdistinct i j hi hj hij hsame

theorem samePlace_iff {first second : Plan} (hfirst : first.IsPlaced) (hsecond : second.IsPlaced) :
    first.SamePlace second.toArtifactUnit ↔
      first.destination.components = second.destination.components := by
  rw [Plan.IsPlaced] at hfirst hsecond
  simp [SamePlace, hfirst, hsecond]

/-- Placed plans do not collide exactly if no destination is repeated. -/
theorem not_collide_iff_of_placed {plans : List Plan} (hplaced : ∀ plan ∈ plans, plan.IsPlaced) :
    ¬ Collide (plans.map Plan.toArtifactUnit) ↔
      Path.firstRepeated? [] (plans.map Plan.destination) = none := by
  rw [not_collide_iff, Path.firstRepeated?_eq_none_iff, List.pairwise_map, List.pairwise_map]
  have hiff : ∀ {first second : Plan}, first ∈ plans → second ∈ plans →
      (¬ first.SamePlace second.toArtifactUnit ↔
        first.destination.components ≠ second.destination.components) :=
    fun hfirst hsecond ↦ not_congr (samePlace_iff (hplaced _ hfirst) (hplaced _ hsecond))
  simp [List.Pairwise.iff_of_mem hiff]

end ArtifactUnit

/-- Sorting keeps every plan. -/
theorem Planning.sorted_perm (planning : Planning) :
    planning.sorted.plans.Perm planning.plans :=
  List.mergeSort_perm _ _

/-- Without two equal destinations the sorted plans ascend strictly. -/
theorem Planning.pairwise_sorted {planning : Planning}
    (hdistinct : planning.plans.Pairwise fun first second ↦
      first.destination.components ≠ second.destination.components) :
    planning.sorted.plans.Pairwise fun first second ↦
      first.destination.order second.destination = .lt := by
  have hsorted := @List.pairwise_mergeSort Plan
    (fun first second ↦ first.destination.atMost second.destination)
    (fun _ _ _ ↦ Path.atMost_trans) (fun _ _ ↦ Path.atMost_total _ _) planning.plans
  have hkept := (planning.sorted_perm.pairwise_iff fun {_ _} hne ↦ hne.symm).mpr hdistinct
  exact hsorted.imp₂ (fun _ _ hatMost hne ↦ Path.order_eq_lt hatMost hne) hkept

namespace Project

theorem plan_of_missingSection {project : Project} {corpus : Corpus} {resolved : List Resolved}
    {name : String} (hmissing : corpus.missingSection? = some name) :
    project.plan corpus resolved = .error (.missingTemplate name) := by
  rw [plan, units_eq, hmissing]
  rfl

/-- Over a corpus that lacks no section the units have placed plans, and they are sorted unless a
destination is repeated. -/
theorem exists_plan_eq (project : Project) {corpus : Corpus} (resolved : List Resolved)
    (hcomplete : corpus.missingSection? = none) :
    ∃ plans : List Plan, plans.map Plan.toArtifactUnit = project.allUnits corpus resolved ∧
      (∀ plan ∈ plans, plan.IsPlaced) ∧
      project.plan corpus resolved =
        match Path.firstRepeated? [] (plans.map Plan.destination) with
        | some path => .error (.duplicateDestination path)
        | none => .ok (Planning.sorted ⟨plans, []⟩) := by
  have hplaces : ∀ unit ∈ project.allUnits corpus resolved, ∃ path, unit.place? = some path :=
    fun _ ↦ exists_place_of_mem_allUnits hcomplete
  obtain ⟨plans, hunits, hplaced⟩ := ArtifactUnit.exists_plans hplaces
  refine ⟨plans, hunits, hplaced, ?_⟩
  have hlisted : project.units corpus resolved = .ok (plans.map Plan.toArtifactUnit) := by
    rw [units_eq, hcomplete, hunits]
  rw [plan, hlisted]
  simp only [Except.bind, bind, ArtifactUnit.place_eq hplaced]
  cases Path.firstRepeated? [] (plans.map Plan.destination) <;> rfl

/-- Plans that planning gives are placed, one for each unit of the project. -/
theorem perm_units_of_plan {project : Project} {corpus : Corpus} {resolved : List Resolved}
    {planning : Planning} (hplan : project.plan corpus resolved = .ok planning) :
    corpus.missingSection? = none ∧ (∀ plan ∈ planning.plans, plan.IsPlaced) ∧
      (planning.plans.map Plan.toArtifactUnit).Perm (project.allUnits corpus resolved) := by
  cases hmissing : corpus.missingSection? with
  | some name =>
    rw [plan_of_missingSection hmissing] at hplan
    cases hplan
  | none =>
    obtain ⟨plans, hunits, hplaced, heq⟩ := exists_plan_eq project resolved hmissing
    rw [hplan] at heq
    cases hrepeated : Path.firstRepeated? [] (plans.map Plan.destination) with
    | some path => simp [hrepeated] at heq
    | none =>
      rw [hrepeated] at heq
      obtain rfl := Except.ok.inj heq
      have hperm := Planning.sorted_perm ⟨plans, []⟩
      exact ⟨rfl, fun plan hmem ↦ hplaced plan (hperm.mem_iff.mp hmem), hunits ▸ hperm.map _⟩

/-- Planning neither loses nor doubles a unit. A corpus that tests types and lacks a section is
refused for the first one. Otherwise every unit has a destination; planning fails exactly if two
units have the same one, and if not it gives one plan for each unit, strictly ascending. -/
theorem plan_covers_units (project : Project) (corpus : Corpus) (resolved : List Resolved) :
    Corpus.sectionNames =
      ["yal_test_type/header.c", "yal_test_type/initialize.c", "yal_test_type/free.c",
        "yal_test_type/clear_with_free_function.c", "yal_test_type/main.c"] ∧
    match corpus.missingSection? with
    | some name => project.plan corpus resolved = .error (.missingTemplate name)
    | none =>
      (∀ unit ∈ project.allUnits corpus resolved, ∃ path, unit.place? = some path) ∧
      ((∃ path, project.plan corpus resolved = .error (.duplicateDestination path)) ↔
        ArtifactUnit.Collide (project.allUnits corpus resolved)) ∧
      (¬ ArtifactUnit.Collide (project.allUnits corpus resolved) →
        ∃ plans, project.plan corpus resolved = .ok ⟨plans, []⟩ ∧
          (plans.map Plan.toArtifactUnit).Perm (project.allUnits corpus resolved) ∧
          (∀ plan ∈ plans, plan.place? = some plan.destination) ∧
          plans.Pairwise fun first second ↦
            first.destination.order second.destination = .lt) := by
  refine ⟨rfl, ?_⟩
  cases hmissing : corpus.missingSection? with
  | some name => exact plan_of_missingSection hmissing
  | none =>
    obtain ⟨plans, hunits, hplaced, hplan⟩ := exists_plan_eq project resolved hmissing
    have hcollide := ArtifactUnit.not_collide_iff_of_placed hplaced
    rw [hunits] at hcollide
    refine ⟨fun unit ↦ exists_place_of_mem_allUnits hmissing, ?_, fun hdistinct ↦ ?_⟩
    · rw [← not_iff_not, hcollide, hplan]
      cases Path.firstRepeated? [] (plans.map Plan.destination) <;> simp
    -- Sorting permutes the plans, and so their units, which were listed without a plan lost.
    · have hnone := hcollide.mp hdistinct
      have hpairwise := (Path.firstRepeated?_eq_none_iff.mp hnone).1
      rw [List.pairwise_map] at hpairwise
      rw [hnone] at hplan
      have hperm := (Planning.mk plans []).sorted_perm
      refine ⟨(Planning.sorted ⟨plans, []⟩).plans, hplan, ?_, fun plan hkept ↦ ?_,
        Planning.pairwise_sorted hpairwise⟩
      · rw [← hunits]
        exact hperm.map Plan.toArtifactUnit
      · exact hplaced plan (hperm.mem_iff.mp hkept)

example :
    plan ⟨[], "", "libexample", "", [], none, []⟩
        ⟨Table.ofList [("libyal/types.h", ⟨"libyal/types.h", []⟩),
          ("libyal/libyal_types.h", ⟨"libyal/libyal_types.h", []⟩)]⟩ [] =
      .error (.duplicateDestination ⟨"libexample/libexample_types.h"⟩) := by
  decide +kernel

end Project

end Scaffold
