import Mathlib.Data.List.TakeWhile
import Scaffold.Proofs.Project.Validation
import Scaffold.Proofs.Text.Cutting

/-!
# What overrides change

An override is meant for one dependency, the first that its name or library name stands for
(`NamedOverride.target?`), and it replaces how that one is looked for (`retarget?_eq`). Overrides
change no name, so each is meant for the same place wherever it stands in a list
(`target?_congr`). A list of overrides is therefore applied up to the first without a target, and
leaves every dependency with the last override that is meant for it (`applyOverrides_eq`,
`applyOverrides_keeps_last`).

The name of a dependency always has a target. It is the dependency itself unless an earlier one has
that name as its library name, as `x` has when it stands before `libx`
(`applyOverrides_reaches_name`).
-/

set_option autoImplicit false

namespace Scaffold

namespace NamedOverride

/-- The place of the dependency that an override is meant for. -/
def target? (named : NamedOverride) (dependencies : List Dependency) : Option Nat :=
  dependencies.findIdx? named.targets

/-- An override is meant for the first dependency that it names by name or library name. -/
theorem target?_eq_some_iff {named : NamedOverride} {dependencies : List Dependency}
    {index : Nat} :
    named.target? dependencies = some index ↔
      ∃ dependency, dependencies[index]? = some dependency ∧
        (dependency.name = named.name ∨ dependency.libraryId = named.name) ∧
        ∀ earlier ∈ dependencies.take index,
          earlier.name ≠ named.name ∧ earlier.libraryId ≠ named.name := by
  have htargets : ∀ dependency, named.targets dependency = true ↔
      dependency.name = named.name ∨ dependency.libraryId = named.name := by
    simp [targets]
  rw [target?, List.findIdx?_eq_some_iff_getElem]
  simp only [htargets, not_or]
  constructor
  · rintro ⟨hindex, hnamed, hearlier⟩
    refine ⟨_, List.getElem?_eq_getElem hindex, hnamed, fun earlier hmem ↦ ?_⟩
    obtain ⟨place, hplace, rfl⟩ := List.mem_take_iff_getElem.mp hmem
    exact hearlier place (by omega)
  · rintro ⟨dependency, hdependency, hnamed, hearlier⟩
    obtain ⟨hindex, rfl⟩ := List.getElem?_eq_some_iff.mp hdependency
    exact ⟨hindex, hnamed, fun place hplace ↦
      hearlier _ (List.mem_take_iff_getElem.mpr ⟨place, by omega, rfl⟩)⟩

/-- An override changes the dependency that it is meant for. -/
theorem retarget?_eq (named : NamedOverride) (dependencies : List Dependency) :
    named.retarget? dependencies = (named.target? dependencies).map fun index ↦
      dependencies.modify index (·.withOverride named.override) := by
  induction dependencies with
  | nil => rfl
  | cons dependency rest ih =>
    rw [retarget?, target?, List.findIdx?_cons]
    cases htargets : named.targets dependency with
    | true => rfl
    | false =>
      rw [if_neg Bool.false_ne_true, ih, target?, if_neg Bool.false_ne_true, Option.map_map,
        Option.map_map]
      rfl

/-- An override changes the dependency that it names, behind others that it does not name. -/
theorem retarget?_append {named : NamedOverride} {before : List Dependency}
    {dependency : Dependency} (hbefore : ∀ earlier ∈ before, named.targets earlier = false)
    (htargets : named.targets dependency = true) (after : List Dependency) :
    named.retarget? (before ++ dependency :: after) =
      some (before ++ dependency.withOverride named.override :: after) := by
  induction before with
  | nil => rw [List.nil_append, retarget?, if_pos htargets, List.nil_append]
  | cons earlier rest ih =>
    have hrest := ih fun other hother ↦ hbefore other (List.mem_cons_of_mem _ hother)
    rw [List.cons_append, retarget?, hbefore earlier List.mem_cons_self, hrest,
      if_neg Bool.false_ne_true, Option.map_some, List.cons_append]

/-- How dependencies are looked for plays no part in which of them is meant. -/
theorem target?_congr (named : NamedOverride) {first second : List Dependency}
    (hsame : first.map (·.withOverride .auto) = second.map (·.withOverride .auto)) :
    named.target? first = named.target? second := by
  have hplain : ∀ dependencies : List Dependency,
      (dependencies.map (·.withOverride .auto)).findIdx? named.targets =
        named.target? dependencies := fun dependencies ↦ List.findIdx?_map ..
  rw [← hplain first, ← hplain second, hsame]

/-- The last of some overrides that is meant for the dependency at a place. -/
def lastFor? (dependencies : List Dependency) (index : Nat) (overrides : List NamedOverride) :
    Option Override :=
  ((overrides.filter fun named ↦ named.target? dependencies == some index).getLast?).map
    (·.override)

theorem lastFor?_cons (dependencies : List Dependency) (index : Nat) (named : NamedOverride)
    (rest : List NamedOverride) :
    lastFor? dependencies index (named :: rest) =
      (lastFor? dependencies index rest).or
        (if named.target? dependencies = some index then some named.override else none) := by
  rw [lastFor?, lastFor?, List.filter_cons]
  by_cases htarget : named.target? dependencies = some index
  · simp only [htarget, beq_self_eq_true, if_true, List.getLast?_cons]
    cases (rest.filter fun named ↦ named.target? dependencies == some index).getLast? <;> rfl
  · simp [htarget]

theorem lastFor?_congr {first second : List Dependency}
    (hsame : first.map (·.withOverride .auto) = second.map (·.withOverride .auto)) (index : Nat)
    (overrides : List NamedOverride) :
    lastFor? first index overrides = lastFor? second index overrides := by
  simp only [lastFor?, fun named : NamedOverride ↦ named.target?_congr hsame]

end NamedOverride

namespace Project

open NamedOverride (lastFor?)

/-! ### Lists of overrides -/

/-- The project with every dependency looked for as the last override says that is meant for it. -/
def overridden (project : Project) (overrides : List NamedOverride) : Project :=
  { project with
    dependencies := project.dependencies.mapIdx fun index dependency ↦
      dependency.withOverride
        ((lastFor? project.dependencies index overrides).getD dependency.override) }

theorem overridden_nil (project : Project) : project.overridden [] = project := by
  have hsame : (project.dependencies.mapIdx fun index dependency ↦
      dependency.withOverride ((lastFor? project.dependencies index []).getD dependency.override)) =
        project.dependencies := List.mapIdx_eq_iff.mpr fun index ↦ by
    cases project.dependencies[index]? <;> rfl
  rw [overridden, hsame]

/-- An override that is applied first gives way to a later one for the same dependency. -/
theorem overridden_cons {project : Project} {named : NamedOverride} {index : Nat}
    (htarget : named.target? project.dependencies = some index)
    (hsame : (project.dependencies.modify index (·.withOverride named.override)).map
      (·.withOverride .auto) = project.dependencies.map (·.withOverride .auto))
    (overrides : List NamedOverride) :
    overridden { project with
        dependencies := project.dependencies.modify index (·.withOverride named.override) }
      overrides = project.overridden (named :: overrides) := by
  -- Targets are the same in both projects, so place by place the question is only whether the first
  -- override is for that place and no later one is.
  rw [overridden, overridden, Project.mk.injEq]
  refine ⟨rfl, rfl, rfl, rfl, rfl, rfl, List.ext_getElem? fun place ↦ ?_⟩
  simp only [List.getElem?_mapIdx, List.getElem?_modify, NamedOverride.lastFor?_congr hsame,
    NamedOverride.lastFor?_cons, htarget, Option.some.injEq]
  cases project.dependencies[place]? with
  | none => rfl
  | some dependency =>
    by_cases hplace : index = place
    · cases lastFor? project.dependencies place overrides <;> simp [hplace, Dependency.withOverride]
    · simp [hplace]

/-- The overrides before the first without a target are applied, and that one is the error. -/
theorem applyOverrides_eq (project : Project) (overrides : List NamedOverride) :
    project.applyOverrides overrides =
      (project.overridden
          (overrides.takeWhile fun named ↦ (named.target? project.dependencies).isSome),
        match overrides.find? fun named ↦ (named.target? project.dependencies).isNone with
        | none => .ok ()
        | some named =>
          .error (.unknownDependency named.name (project.dependencies.map (·.name)))) := by
  induction overrides generalizing project with
  | nil => rw [applyOverrides, List.takeWhile_nil, List.find?_nil, overridden_nil]
  | cons named rest ih =>
    rw [applyOverrides, List.takeWhile_cons, List.find?_cons]
    cases htarget : named.target? project.dependencies with
    | none => simp [named.retarget?_eq, htarget, overridden_nil]
    | some index =>
      have hretarget : named.retarget? project.dependencies =
          some (project.dependencies.modify index (·.withOverride named.override)) := by
        rw [named.retarget?_eq, htarget, Option.map_some]
      have hsame := map_withOverride_of_retarget? hretarget
      have hnames : (project.dependencies.modify index (·.withOverride named.override)).map
          (·.name) = project.dependencies.map (·.name) := by
        simpa [Dependency.withOverride, Function.comp_def] using
          congrArg (List.map Dependency.name) hsame
      have htargets := fun other : NamedOverride ↦ other.target?_congr hsame
      simp only [hretarget, ih, htargets, hnames, overridden_cons htarget hsame]
      rfl

/-- Overrides that all have a target go through. -/
theorem applyOverrides_of_targets {project : Project} {overrides : List NamedOverride}
    (htargets : ∀ named ∈ overrides, (named.target? project.dependencies).isSome = true) :
    project.applyOverrides overrides = (project.overridden overrides, .ok ()) := by
  have hnone : (overrides.find? fun named ↦ (named.target? project.dependencies).isNone) = none :=
    List.find?_eq_none.mpr fun named hnamed ↦ by
      simpa [Option.isSome_iff_ne_none] using htargets named hnamed
  rw [applyOverrides_eq, List.takeWhile_eq_self_iff.mpr htargets, hnone]

/-- An override without a target is the error of those that stand before it, all with one, and of
whatever follows. -/
theorem applyOverrides_of_target?_eq_none {project : Project} {before after : List NamedOverride}
    {named : NamedOverride}
    (hbefore : ∀ earlier ∈ before, (earlier.target? project.dependencies).isSome = true)
    (hnamed : named.target? project.dependencies = none) :
    project.applyOverrides (before ++ named :: after) =
      (project.overridden before,
        .error (.unknownDependency named.name (project.dependencies.map (·.name)))) := by
  have hfirst : ((before ++ named :: after).find? fun named ↦
      (named.target? project.dependencies).isNone) = some named :=
    List.find?_eq_some_iff_append.mpr ⟨by simp [hnamed], before, after, rfl, fun earlier hearlier ↦
      by simpa using hbefore earlier hearlier⟩
  rw [applyOverrides_eq, List.takeWhile_append_of_pos hbefore, hfirst, List.takeWhile_cons_of_neg
    (by simp [hnamed]), List.append_nil]

/-- Either all of some overrides have a target, or there is a first without one. -/
theorem targets_or_exists_first (dependencies : List Dependency) (overrides : List NamedOverride) :
    (∀ named ∈ overrides, (named.target? dependencies).isSome = true) ∨
      ∃ before named after, overrides = before ++ named :: after ∧
        (∀ earlier ∈ before, (earlier.target? dependencies).isSome = true) ∧
        named.target? dependencies = none := by
  cases hfirst : overrides.find? fun named ↦ (named.target? dependencies).isNone with
  | none =>
    refine .inl fun named hnamed ↦ ?_
    simpa [Option.isSome_iff_ne_none] using List.find?_eq_none.mp hfirst named hnamed
  | some named =>
    obtain ⟨hnone, before, after, rfl, hbefore⟩ := List.find?_eq_some_iff_append.mp hfirst
    refine .inr ⟨before, named, after, rfl, fun earlier hearlier ↦ ?_, by simpa using hnone⟩
    simpa using hbefore earlier hearlier

theorem applyOverrides_eq_ok_iff {project : Project} {overrides : List NamedOverride} :
    (project.applyOverrides overrides).2 = .ok () ↔
      ∀ named ∈ overrides, (named.target? project.dependencies).isSome = true := by
  refine ⟨fun hok ↦ ?_, fun htargets ↦ by rw [applyOverrides_of_targets htargets]⟩
  rcases targets_or_exists_first project.dependencies overrides with
    htargets | ⟨before, named, after, rfl, hbefore, hnamed⟩
  · exact htargets
  · rw [applyOverrides_of_target?_eq_none hbefore hnamed] at hok
    cases hok

/-- The error of overrides is about the first without a target; those before it are applied. -/
theorem applyOverrides_eq_error_iff {project : Project} {overrides : List NamedOverride}
    {error : ProjectError} :
    (project.applyOverrides overrides).2 = .error error ↔
      ∃ before named after, overrides = before ++ named :: after ∧
        project.applyOverrides before = ((project.applyOverrides overrides).1, .ok ()) ∧
        named.target? project.dependencies = none ∧
        error = .unknownDependency named.name (project.dependencies.map (·.name)) := by
  constructor
  · intro herror
    rcases targets_or_exists_first project.dependencies overrides with
      htargets | ⟨before, named, after, rfl, hbefore, hnamed⟩
    · rw [applyOverrides_of_targets htargets] at herror
      cases herror
    · rw [applyOverrides_of_target?_eq_none hbefore hnamed] at herror ⊢
      exact ⟨before, named, after, rfl, applyOverrides_of_targets hbefore, hnamed,
        (Except.error.inj herror).symm⟩
  · rintro ⟨before, named, after, rfl, happlied, hnamed, rfl⟩
    have hbefore := applyOverrides_eq_ok_iff.mp (congrArg Prod.snd happlied)
    rw [applyOverrides_of_target?_eq_none hbefore hnamed]

/-- Overrides change nothing but overrides, and the last one wins. A list of overrides goes through
exactly if each of them has a target, the first dependency that it names by name or library name.
Then the project is the same but for its dependencies, and each of these is the same in its place
but for its override, which is that of the last override with this target, or its own if there is
none. Otherwise the error is about the first override without a target and lists the names of all
dependencies, and the project is left as the overrides before that one leave it. -/
theorem applyOverrides_keeps_last (project : Project) (overrides : List NamedOverride) :
    (∀ (named : NamedOverride) (index : Nat),
      named.target? project.dependencies = some index ↔
        ∃ dependency, project.dependencies[index]? = some dependency ∧
          (dependency.name = named.name ∨ dependency.libraryId = named.name) ∧
          ∀ earlier ∈ project.dependencies.take index,
            earlier.name ≠ named.name ∧ earlier.libraryId ≠ named.name) ∧
    ((project.applyOverrides overrides).2 = .ok () ↔
      ∀ named ∈ overrides, ∃ index, named.target? project.dependencies = some index) ∧
    ((project.applyOverrides overrides).2 = .ok () →
      (project.applyOverrides overrides).1 =
          { project with dependencies := (project.applyOverrides overrides).1.dependencies } ∧
        ∀ index : Nat, (project.applyOverrides overrides).1.dependencies[index]? =
          project.dependencies[index]?.map fun dependency ↦
            { dependency with
              override := (lastFor? project.dependencies index overrides).getD
                dependency.override }) ∧
    ∀ error, (project.applyOverrides overrides).2 = .error error ↔
      ∃ before named after, overrides = before ++ named :: after ∧
        project.applyOverrides before = ((project.applyOverrides overrides).1, .ok ()) ∧
        named.target? project.dependencies = none ∧
        error = .unknownDependency named.name (project.dependencies.map (·.name)) ∧
        error.message = "Dependency '" ++ named.name ++ "' not found. Available dependencies: " ++
          Text.joinWith ", " (project.dependencies.map (·.name)) := by
  refine ⟨fun named index ↦ NamedOverride.target?_eq_some_iff, ?_, fun hok ↦ ?_, fun error ↦ ?_⟩
  · simp only [applyOverrides_eq_ok_iff, Option.isSome_iff_exists]
  · rw [applyOverrides_of_targets (applyOverrides_eq_ok_iff.mp hok)]
    exact ⟨rfl, fun index ↦ List.getElem?_mapIdx⟩
  · rw [applyOverrides_eq_error_iff]
    constructor
    · rintro ⟨before, named, after, hsplit, happlied, hnamed, rfl⟩
      exact ⟨before, named, after, hsplit, happlied, hnamed, rfl, rfl⟩
    · rintro ⟨before, named, after, hsplit, happlied, hnamed, herror, -⟩
      exact ⟨before, named, after, hsplit, happlied, hnamed, herror⟩

/-- A dependency `z` is named twice, by both its names, and the second override for it is the one
that stays. -/
theorem applyOverrides_keeps_last_of_aliases :
    let project : Project := ⟨[], "", "libx", "", [], none, [.new "z" "1", .new "y" "1"]⟩
    let overrides : List NamedOverride :=
      [⟨"libz", .required⟩, ⟨"y", .disabled⟩, ⟨"z", .disabled⟩]
    (project.applyOverrides overrides).2 = .ok () ∧
      (project.applyOverrides overrides).1.dependencies[0]? =
        some ⟨"z", "1", none, none, .disabled, none⟩ := by
  intro project overrides
  obtain ⟨-, -, hkept, -⟩ := applyOverrides_keeps_last project overrides
  have hok : (project.applyOverrides overrides).2 = .ok () := by decide
  exact ⟨hok, (hkept hok).2 0⟩

/-! ### Overriding a dependency by its name -/

/-- Two dependencies with the same library name, which is the name of neither, have the same
name. -/
theorem name_eq_of_libraryId {first second : Dependency}
    (hsame : first.libraryId = second.libraryId) (hfirst : first.name ≠ first.libraryId)
    (hsecond : second.name ≠ second.libraryId) : first.name = second.name := by
  have hlink : ∀ dependency : Dependency, dependency.name ≠ dependency.libraryId →
      dependency.name = dependency.linkName := fun dependency hne ↦
    (Text.eq_dropStem_or_eq_append "lib" dependency.name).resolve_right hne
  rw [hlink first hfirst, hlink second hsecond]
  exact (String.append_right_inj "lib").mp hsame

/-- An override changes the first dependency that it names, and goes through. -/
theorem applyOverrides_of_targets_first {project : Project} {named : NamedOverride}
    {before after : List Dependency} {dependency : Dependency}
    (hdependencies : project.dependencies = before ++ dependency :: after)
    (hbefore : ∀ earlier ∈ before,
      earlier.name ≠ named.name ∧ earlier.libraryId ≠ named.name)
    (hnamed : dependency.name = named.name ∨ dependency.libraryId = named.name) :
    project.applyOverrides [named] =
      ({ project with
          dependencies := before ++ dependency.withOverride named.override :: after }, .ok ()) := by
  have hfree : ∀ earlier ∈ before, named.targets earlier = false := by
    simpa [NamedOverride.targets] using hbefore
  have htargets : named.targets dependency = true := by simpa [NamedOverride.targets] using hnamed
  have hretarget := NamedOverride.retarget?_append hfree htargets after
  rw [applyOverrides, hdependencies, hretarget]
  rfl

/-- A dependency is overridden by its own name. For a valid project, an override with the name of a
dependency goes through. Unless an earlier dependency has this name as its library name, it is set
for this dependency and the project is the same otherwise; if one has, it is set for that one
instead. -/
theorem applyOverrides_reaches_name {project : Project} (hvalid : project.validate = .ok ())
    {before after : List Dependency} {dependency : Dependency}
    (hdependencies : project.dependencies = before ++ dependency :: after) (override : Override) :
    (project.applyOverrides [⟨dependency.name, override⟩]).2 = .ok () ∧
    ((∀ earlier ∈ before, earlier.libraryId ≠ dependency.name) →
      (project.applyOverrides [⟨dependency.name, override⟩]).1 =
        { project with dependencies := before ++ { dependency with override } :: after }) ∧
    ∀ front earlier back, before = front ++ earlier :: back →
      earlier.libraryId = dependency.name →
      (project.applyOverrides [⟨dependency.name, override⟩]).1 =
        { project with
          dependencies := front ++ { earlier with override } :: back ++ dependency :: after } := by
  have hdistinct := (validate_eq_ok_iff.mp hvalid).dependenciesDistinct
  rw [hdependencies, List.map_append, List.map_cons, List.nodup_append] at hdistinct
  obtain ⟨hbefore, -, hapart⟩ := hdistinct
  have hnames : ∀ earlier ∈ before, earlier.name ≠ dependency.name := fun earlier hearlier ↦
    hapart _ (List.mem_map_of_mem hearlier) _ List.mem_cons_self
  refine ⟨?_, fun hids ↦ ?_, fun front earlier back hsplit hid ↦ ?_⟩
  · refine applyOverrides_eq_ok_iff.mpr fun named hnamed ↦ ?_
    rw [List.mem_singleton.mp hnamed, hdependencies]
    simp [NamedOverride.target?, NamedOverride.targets]
  · rw [applyOverrides_of_targets_first hdependencies
      (fun earlier hearlier ↦ ⟨hnames earlier hearlier, hids earlier hearlier⟩) (.inl rfl)]
    rfl
  · -- No other dependency before this one has the same library name: it would have its name, too.
    subst hsplit
    rw [List.map_append, List.map_cons, List.nodup_append] at hbefore
    have hfront : ∀ other ∈ front,
        other.name ≠ dependency.name ∧ other.libraryId ≠ dependency.name := by
      intro other hother
      have hname := hnames other (List.mem_append_left _ hother)
      refine ⟨hname, fun hother_id ↦ ?_⟩
      have hearlier := hnames earlier (List.mem_append_right _ List.mem_cons_self)
      have hsame : other.name = earlier.name := name_eq_of_libraryId (hother_id.trans hid.symm)
        (by rwa [hother_id]) (by rwa [hid])
      exact hbefore.2.2 _ (List.mem_map_of_mem hother) _ List.mem_cons_self hsame
    have hall : project.dependencies = front ++ earlier :: (back ++ dependency :: after) := by
      simp [hdependencies]
    rw [applyOverrides_of_targets_first hall hfront (.inr hid)]
    simp [Dependency.withOverride]

/-- A dependency `z` behind `libz` is reached by its name, though both have the same library
name. -/
theorem applyOverrides_reaches_name_behind_alias :
    let project : Project := ⟨[], "", "libx", "", [], none, [.new "libz" "1", .new "z" "1"]⟩
    project.validate = .ok () ∧
      project.applyOverrides [⟨"z", .disabled⟩] =
        ({ project with
            dependencies := [.new "libz" "1", ⟨"z", "1", none, none, .disabled, none⟩] },
          .ok ()) := by
  intro project
  have hvalid : project.validate = .ok () := by decide +kernel
  have hdependencies : project.dependencies = [.new "libz" "1"] ++ .new "z" "1" :: [] := rfl
  obtain ⟨hok, hself, -⟩ := applyOverrides_reaches_name hvalid hdependencies .disabled
  exact ⟨hvalid, Prod.ext (hself (by decide)) hok⟩

/-- A dependency `libz` behind `z` is not reached by its name: the override is set for `z`. -/
theorem applyOverrides_misses_name :
    ∃ project,
      ofText ("library:\n  name: libx\ndependencies:\n- name: z\n  min_version: 1\n" ++
        "- name: libz\n  min_version: 1\n") = .ok project ∧
      project.validate = .ok () ∧ project.dependencies = [.new "z" "1", .new "libz" "1"] ∧
      project.applyOverrides [⟨"libz", .disabled⟩] =
        ({ project with
            dependencies := [⟨"z", "1", none, none, .disabled, none⟩, .new "libz" "1"] },
          .ok ()) :=
  ⟨⟨[], "", "libx", "", [], none, [.new "z" "1", .new "libz" "1"]⟩, by decide +kernel,
    by decide +kernel, rfl, by decide⟩

end Project

end Scaffold
