import Scaffold.Proofs.Project.Destinations
import Scaffold.Proofs.Project.Validation

/-!
# Destinations and the output directory

Names that are texts of identifiers hold no slash, and no file name of a template brings one in, so
a destination has two steps, both of them names, and lies below whatever directory it is seen from.
There is one exception (`plan_stays_inside`): the name of the binding module may be given as the
empty text, and then every header stub goes to the root of the file system instead
(`plan_leaves_output`).
-/

set_option autoImplicit false

namespace Scaffold

/-- The path is relative, with two steps that are both names. -/
def Path.IsPair (path : Path) : Prop :=
  ∃ first second, Component.IsName first ∧ Component.IsName second ∧
    path.components = [.named first, .named second]

/-- A pair lies below every directory that it is seen from. -/
theorem Path.IsPair.components_join {path : Path} (hpair : path.IsPair) (output : Path) :
    (output.join path).components = output.components ++ path.components := by
  obtain ⟨first, second, -, -, hcomponents⟩ := hpair
  exact Path.components_join (Path.lead_eq_nil hcomponents)

namespace Project

/-- The text of an identifier that is not empty is a single step. -/
theorem isName_of_isIdentifierText {text : String} (htext : isIdentifierText text = true)
    (hfull : text ≠ "") : Component.IsName text := by
  have hdot : '.' ∉ text.toList := not_mem_of_isIdentifierText htext (by decide)
  obtain ⟨c, hc⟩ := List.exists_mem_of_ne_nil text.toList (by simpa using hfull)
  exact Component.isName_of_mem hc (fun heq ↦ hdot (heq ▸ hc))
    (not_mem_of_isIdentifierText htext (by decide))

variable {project : Project}

theorem slash_not_mem_suffix (hvalid : project.IsValid) : '/' ∉ project.suffix.toList :=
  fun hmem ↦ not_mem_of_isIdentifierText hvalid.libraryName (by decide)
    (Text.mem_of_mem_dropStem hmem)

theorem slash_not_mem_bindingName (hvalid : project.IsValid) :
    '/' ∉ project.bindingName.toList := by
  rw [bindingName]
  cases hmodule : project.moduleName with
  | none => simpa using slash_not_mem_suffix hvalid
  | some name => exact not_mem_of_isIdentifierText (hvalid.moduleName name hmodule) (by decide)

/-- Unless it is given as the empty text, the name of the binding module is a single step. -/
theorem isName_bindingName (hvalid : project.IsValid) (hmodule : project.moduleName ≠ some "") :
    Component.IsName project.bindingName := by
  cases hgiven : project.moduleName with
  | none =>
    have hslash := slash_not_mem_bindingName hvalid
    have hp : 'p' ∈ project.bindingName.toList := by simp [bindingName, hgiven]
    exact Component.isName_of_mem hp (by decide) hslash
  | some name =>
    rw [bindingName, hgiven, Option.getD_some]
    refine isName_of_isIdentifierText (hvalid.moduleName name hgiven) fun hempty ↦ hmodule ?_
    rw [hgiven, hempty]

theorem slash_not_mem_libraryId {dependency : Dependency}
    (hname : '/' ∉ dependency.name.toList) : '/' ∉ dependency.libraryId.toList := by
  have hlink : '/' ∉ dependency.linkName.toList := fun hmem ↦ hname (Text.mem_of_mem_dropStem hmem)
  simpa [Dependency.libraryId] using hlink

/-- The unit is a macro file for the resolved dependency. -/
def IsMacroFor (project : Project) (resolved : Resolved) (unit : ArtifactUnit) : Prop :=
  unit.kind = .buildMacro ∧ unit.base = project.macroTokens resolved

variable {corpus : Corpus} {resolved : List Resolved} {unit : ArtifactUnit}

/-- No token that the destination of a unit is built from has a slash in its value. -/
theorem slash_not_mem_valueOf (hvalid : project.IsValid) (hcomplete : corpus.missingSection? = none)
    (hslash : ∀ dependency ∈ resolved, project.IsMacroFor dependency unit →
      '/' ∉ dependency.dependency.name.toList)
    (hunit : unit ∈ project.allUnits corpus resolved) :
    ∀ token ∈ unit.kind.destinationTokens, '/' ∉ (Token.valueOf unit.base token).toList := by
  obtain ⟨-, -, (⟨hkind | hkind, hbase⟩ | ⟨type, htype, hkind, hbase⟩ |
    ⟨dependency, hdependency, hkind, hbase⟩)⟩ := base_of_mem_allUnits hcomplete hunit <;>
    simp only [hkind, hbase, ArtifactKind.destinationTokens, List.forall_mem_cons,
      List.not_mem_nil, IsEmpty.forall_iff, implies_true, and_true]
  · rw [valueOf_library_name]
    exact not_mem_of_isIdentifierText hvalid.libraryName (by decide)
  · rw [valueOf_python_module_name]
    exact slash_not_mem_bindingName hvalid
  · rw [valueOf_library_name_suffix, valueOf_type_name]
    exact ⟨slash_not_mem_suffix hvalid,
      not_mem_of_isIdentifierText (hvalid.types type htype).name (by decide)⟩
  · rw [valueOf_library_id]
    exact slash_not_mem_libraryId (hslash dependency hdependency ⟨hkind, hbase⟩)

/-- The folder of a unit is a single step, but for a header stub of a module without a name. -/
theorem isName_folder (hvalid : project.IsValid) (hcomplete : corpus.missingSection? = none)
    (hunit : unit ∈ project.allUnits corpus resolved)
    (hmodule : ¬(unit.kind = .headerStub ∧ project.moduleName = some "")) :
    Component.IsName (unit.kind.folder (Token.valueOf unit.base)) := by
  obtain ⟨-, -, (⟨hkind | hkind, hbase⟩ | ⟨type, -, hkind, -⟩ | ⟨dependency, -, hkind, -⟩)⟩ :=
    base_of_mem_allUnits hcomplete hunit
  · rw [hkind, hbase, ArtifactKind.folder, valueOf_library_name]
    exact isName_of_isIdentifierText hvalid.libraryName (ne_empty_of_isNameless hvalid.named)
  · rw [hkind, hbase, ArtifactKind.folder, valueOf_python_module_name]
    exact isName_bindingName hvalid fun hempty ↦ hmodule ⟨hkind, hempty⟩
  · rw [hkind, ArtifactKind.folder]
    exact Component.isName_of_mem (c := 't') (by decide) (by decide) (by decide)
  · rw [hkind, ArtifactKind.folder]
    exact Component.isName_of_mem (c := 'm') (by decide) (by decide) (by decide)

/-- Whatever overrides are applied, the dependencies of a valid project have names without a
slash. -/
theorem slash_not_mem_dependencies (hvalid : project.IsValid) (overrides : List NamedOverride) :
    ∀ dependency ∈ (project.applyOverrides overrides).1.dependencies,
      '/' ∉ dependency.name.toList :=
  fun dependency hdependency ↦ not_mem_of_isIdentifierText
    ((isValid_applyOverrides hvalid overrides).dependencies dependency hdependency) (by decide)

/-- A header stub of a module without a name goes to the root of the file system, whatever directory
its destination is seen from. -/
theorem plan_leaves_output {planning : Planning} {plan : Plan} (hvalid : project.IsValid)
    (hplan : project.plan corpus resolved = .ok planning) (hmem : plan ∈ planning.plans)
    (hkind : plan.kind = .headerStub) (hmodule : project.moduleName = some "") :
    (∃ file, Component.IsName file ∧ plan.destination.components = [.root, .named file]) ∧
      ∀ output : Path, output.join plan.destination = plan.destination := by
  obtain ⟨hcomplete, hunit, -⟩ := unit_of_mem_plan hplan hmem
  obtain ⟨template, hdestination⟩ := destination_of_mem_plan hplan hmem
  have hfolder : plan.kind.folder (Token.valueOf plan.base) = "" := by
    obtain ⟨-, -, (⟨-, hbase⟩ | ⟨_, -, hother, -⟩ | ⟨_, -, hother, -⟩)⟩ :=
      base_of_mem_allUnits hcomplete hunit
    · rw [hkind, hbase, ArtifactKind.folder, valueOf_python_module_name, bindingName, hmodule,
        Option.getD_some]
    · cases hkind.symm.trans hother
    · cases hkind.symm.trans hother
  have hfile := ArtifactKind.isName_fileName template (slash_not_mem_valueOf hvalid hcomplete
    (fun _ _ hother ↦ by cases hkind.symm.trans hother.1) hunit)
  rw [hfolder] at hdestination
  have habsolute : plan.destination.isAbsolute = true := by
    rw [hdestination]
    exact (Path.isAbsolute_append_slash "" _).mpr (.inl rfl)
  refine ⟨⟨_, hfile, by rw [hdestination, Path.components_rooted hfile]⟩, fun output ↦ ?_⟩
  rw [Path.join, if_pos (.inl habsolute)]

/-- The destinations that planning gives for a project that was read, with any overrides, over any
corpus and with whatever was found: two steps below whatever directory they are seen from, but for
the header stubs of a module that was given the empty text for a name. A macro file could only leave
its directory for a dependency that the project does not have, with a slash in its name. -/
theorem plan_stays_inside {text : String} (hproject : ofText text = .ok project)
    (overrides : List NamedOverride) (corpus : Corpus) (resolved : List Resolved)
    {planning : Planning}
    (hplan : (project.applyOverrides overrides).1.plan corpus resolved = .ok planning) :
    (∀ dependency ∈ (project.applyOverrides overrides).1.dependencies,
      '/' ∉ dependency.name.toList) ∧
    ∀ plan ∈ planning.plans,
      (plan.kind = .headerStub ∧ project.moduleName = some "" →
        (∃ file, Component.IsName file ∧ plan.destination.components = [.root, .named file]) ∧
          ∀ output : Path, output.join plan.destination = plan.destination) ∧
      (¬(plan.kind = .headerStub ∧ project.moduleName = some "") →
        (∀ dependency ∈ resolved,
          (project.applyOverrides overrides).1.IsMacroFor dependency plan.toArtifactUnit →
            '/' ∉ dependency.dependency.name.toList) →
        plan.destination.IsPair ∧ ∀ output : Path,
          (output.join plan.destination).components =
            output.components ++ plan.destination.components) := by
  have hvalid := isValid_of_ofText hproject
  have hoverridden := isValid_applyOverrides hvalid overrides
  refine ⟨slash_not_mem_dependencies hvalid overrides, fun plan hmem ↦ ⟨?_, ?_⟩⟩
  · rintro ⟨hkind, hmodule⟩
    rw [← moduleName_applyOverrides project overrides] at hmodule
    exact plan_leaves_output hoverridden hplan hmem hkind hmodule
  · intro hmodule hslash
    rw [← moduleName_applyOverrides project overrides] at hmodule
    obtain ⟨hcomplete, hunit, -⟩ := unit_of_mem_plan hplan hmem
    obtain ⟨template, hdestination⟩ := destination_of_mem_plan hplan hmem
    have hfolder := isName_folder hoverridden hcomplete hunit hmodule
    have hfile := ArtifactKind.isName_fileName template
      (slash_not_mem_valueOf hoverridden hcomplete hslash hunit)
    have hpair : plan.destination.IsPair :=
      ⟨_, _, hfolder, hfile, by rw [hdestination, Path.components_pair hfolder hfile]⟩
    exact ⟨hpair, hpair.components_join⟩

/-- The macro file of a dependency `z` of a library `libx` stays inside the output directory. -/
theorem plan_stays_inside_of_macro :
    ∃ project corpus planning plan,
      ofText "library:\n  name: libx\ndependencies:\n- name: z\n  min_version: 1\n" =
        .ok project ∧
      Corpus.ofEntries [("m4/dependency.m4", "")] = .ok corpus ∧
      (project.applyOverrides [⟨"libz", .disabled⟩]).1.plan corpus
        [⟨.new "z" "1", .new (.new "z" "1") .disabled [] [] none⟩] = .ok planning ∧
      planning.plans = [plan] ∧ plan.destination = ⟨"m4/libz.m4"⟩ ∧ plan.destination.IsPair := by
  have hproject : ofText "library:\n  name: libx\ndependencies:\n- name: z\n  min_version: 1\n" =
      .ok ⟨[], "", "libx", "", [], none, [.new "z" "1"]⟩ := by
    decide +kernel
  have hcorpus : Corpus.ofEntries [("m4/dependency.m4", "")] =
      .ok ⟨Table.ofList [("m4/dependency.m4", ⟨"m4/dependency.m4", []⟩)]⟩ := by
    decide +kernel
  have hplan : (applyOverrides ⟨[], "", "libx", "", [], none, [.new "z" "1"]⟩
        [⟨"libz", .disabled⟩]).1.plan
        ⟨Table.ofList [("m4/dependency.m4", ⟨"m4/dependency.m4", []⟩)]⟩
        [⟨.new "z" "1", .new (.new "z" "1") .disabled [] [] none⟩] =
      .ok ⟨[⟨⟨.buildMacro, [⟨"m4/dependency.m4", []⟩],
        macroTokens ⟨[], "", "libx", "", [], none, [.new "z" "1"]⟩
          ⟨.new "z" "1", .new (.new "z" "1") .disabled [] [] none⟩,
        some (.new (.new "z" "1") .disabled [] [] none)⟩, ⟨"m4/libz.m4"⟩⟩], []⟩ := by
    decide +kernel
  obtain ⟨-, hinside⟩ := plan_stays_inside hproject [⟨"libz", .disabled⟩] _ _ hplan
  refine ⟨_, _, _, _, hproject, hcorpus, hplan, rfl, rfl, ?_⟩
  have hslash := (hinside _ (List.mem_singleton_self _)).2 (by decide)
  refine (hslash fun dependency hdependency _ ↦ ?_).1
  rw [List.mem_singleton.mp hdependency]
  decide

/-- The header stub of a library `libx` whose module was given the empty text for a name is planned
as a file at the root. -/
theorem plan_leaves_output_of_empty_module :
    ∃ project corpus planning plan,
      ofText "library:\n  name: libx\npython_module:\n  name: \"\"\n" = .ok project ∧
      Corpus.ofEntries [("pyyal/pyyal_guid.h", "")] = .ok corpus ∧
      Project.plan project corpus [] = .ok planning ∧ planning.plans = [plan] ∧
      plan.destination = ⟨"/_guid.h"⟩ ∧ ¬plan.destination.IsPair ∧
      ∀ output : Path, output.join plan.destination = plan.destination := by
  have hplan : plan ⟨[], "", "libx", "", [], some "", []⟩
        ⟨Table.ofList [("pyyal/pyyal_guid.h", ⟨"pyyal/pyyal_guid.h", []⟩)]⟩ [] =
      .ok ⟨[⟨⟨.headerStub, [⟨"pyyal/pyyal_guid.h", []⟩],
        libraryTokens ⟨[], "", "libx", "", [], some "", []⟩, none⟩, ⟨"/_guid.h"⟩⟩], []⟩ := by
    decide +kernel
  refine ⟨_, _, _, _, by decide +kernel, by decide +kernel, hplan, rfl, rfl, ?_,
    fun output ↦ if_pos (.inl (by decide))⟩
  rintro ⟨first, second, -, -, hcomponents⟩
  have hrooted : Path.components ⟨"/_guid.h"⟩ = [.root, .named "_guid.h"] := by decide
  simp [hrooted] at hcomponents

end Project

end Scaffold
