import Mathlib.Data.List.Perm.Basic
import Scaffold.Proofs.Artifact.Emission
import Scaffold.Proofs.Project.Containment
import Scaffold.Proofs.Template.Builtin

/-!
# Artifacts of the built-in templates

`Project.shippedFiles` lists what is made from the built-in templates: two library headers, a header
stub, a test for each type, and a macro file for each dependency. The units of a project over the
built-in corpus go to these files (`perm_lines_allUnits`), and every token of their templates has a
meaning (`exists_meaning_of_mem_templates`).

The files are all different but for macro files of dependencies with one library name
(`nodup_shippedFiles_iff`): names of the library, of the module and of types may coincide, but they
stand before endings of their own. So planning fails exactly if two dependencies have the same
library name, and otherwise leaves nothing that cannot be rendered (`plan_shipped`).
-/

set_option autoImplicit false

namespace Scaffold

namespace Project

open Template.Builtin (supplied)

/-! ### Supplied tokens -/

theorem exists_find?_libraryTokens (project : Project) :
    ∀ name ∈ supplied .librarySource, ∃ value, project.libraryTokens.find? name = some value := by
  intro name hname
  refine Table.exists_find?_ofList ?_
  rw [List.map_append]
  exact List.mem_append_left _ (by simpa [supplied] using hname)

theorem exists_find?_typeTokens (project : Project) (type : TypeEntry) :
    ∀ name ∈ supplied .testSource, ∃ value, (project.typeTokens type).find? name = some value := by
  have hsplit : ∀ name ∈ supplied .testSource,
      name ∈ supplied .librarySource ∨ name = "type_name" ∨ name = "value_name" := by decide
  intro name hname
  rw [typeTokens, Table.find?_insert, Table.find?_insert]
  rcases hsplit name hname with hlibrary | rfl | rfl
  · obtain ⟨value, hvalue⟩ := exists_find?_libraryTokens project name hlibrary
    rw [hvalue]
    split
    · exact ⟨_, rfl⟩
    · split <;> exact ⟨_, rfl⟩
  · exact ⟨_, rfl⟩
  · exact ⟨_, rfl⟩

theorem exists_find?_macroTokens (project : Project) (resolved : Resolved) :
    ∀ name ∈ supplied .buildMacro,
      ∃ value, (project.macroTokens resolved).find? name = some value := by
  intro name hname
  rw [macroTokens, TokenTable.find?_union]
  rcases List.mem_append.mp hname with hlibrary | hfinding
  · obtain ⟨value, hvalue⟩ := exists_find?_libraryTokens project name hlibrary
    rw [hvalue]
    cases (resolved.finding.tokens resolved.dependency).find? name <;> exact ⟨_, rfl⟩
  · obtain ⟨value, hvalue⟩ : ∃ value,
        (resolved.finding.tokens resolved.dependency).find? name = some value :=
      Table.exists_find?_ofList hfinding
    rw [hvalue]
    exact ⟨_, rfl⟩

variable {project : Project} {resolved : List Resolved} {unit : ArtifactUnit}

/-- Every token of the templates of a unit has a meaning. -/
theorem exists_meaning_of_mem_templates (hunit : unit ∈ project.allUnits .shipped resolved) :
    ∀ template ∈ unit.templates, ∀ token ∈ template.tokens,
      ∃ value, Token.meaning? unit.base token = some value := by
  obtain ⟨-, htemplates, hbase⟩ := base_of_mem_allUnits Corpus.missingSection?_shipped hunit
  have hsupplied : ∀ name ∈ supplied unit.kind, ∃ value, unit.base.find? name = some value := by
    obtain (⟨hkind | hkind, hbase⟩ | ⟨type, -, hkind, hbase⟩ | ⟨dependency, -, hkind, hbase⟩) :=
      hbase <;> rw [hkind, hbase]
    · exact exists_find?_libraryTokens project
    · exact exists_find?_libraryTokens project
    · exact exists_find?_typeTokens project type
    · exact exists_find?_macroTokens project dependency
  exact fun template htemplate ↦
    Corpus.exists_meaning_of_mem_ofKind hsupplied (htemplates template htemplate)

/-! ### Files -/

/-- The kind, the folder and the file name of each artifact made from the built-in templates. -/
def shippedFiles (project : Project) : List (ArtifactKind × String × String) :=
  [(.librarySource, project.libraryName, project.libraryName ++ "_extern.h"),
    (.librarySource, project.libraryName, project.libraryName ++ "_support.h"),
    (.headerStub, project.bindingName, project.bindingName ++ "_guid.h")] ++
  project.types.map (fun type ↦
    (.testSource, "tests", project.suffix ++ "_test_" ++ type.name ++ ".c")) ++
  project.dependencies.map fun dependency ↦
    (.buildMacro, "m4", dependency.libraryId ++ ".m4")

end Project

/-- The line of a report for a file in a folder. -/
def Report.line (file : ArtifactKind × String × String) : ArtifactKind × Path :=
  (file.1, ⟨file.2.1 ++ "/" ++ file.2.2⟩)

namespace ArtifactUnit

/-- The line of a report for a unit that has a destination. -/
def line? (unit : ArtifactUnit) : Option (ArtifactKind × Path) :=
  unit.place?.map fun path ↦ (unit.kind, path)

theorem filterMap_line?_plans {plans : List Plan} (hplaced : ∀ plan ∈ plans, plan.IsPlaced) :
    (plans.map Plan.toArtifactUnit).filterMap line? =
      plans.map fun plan ↦ (plan.kind, plan.destination) := by
  rw [List.filterMap_map, ← List.filterMap_eq_map']
  refine List.filterMap_congr fun plan hplan ↦ ?_
  have hplace := hplaced plan hplan
  rw [Plan.IsPlaced] at hplace
  simp [line?, hplace]

/-- The lines for a template of each built-in name in the directory of a kind. -/
theorem perm_lines_unitEach {kind : ArtifactKind} {base : TokenTable} {finding : Option Finding}
    (place : String → Path)
    (hplace : ∀ template, place? ⟨kind, [template], base, finding⟩ = some (place template.name)) :
    ((Corpus.shipped.unitEach kind base finding).filterMap line?).Perm
      (((Template.Builtin.sources.map Prod.fst).filter fun name ↦
        ArtifactKind.ofName? name == some kind).map fun name ↦ (kind, place name)) := by
  have hlines : (Corpus.shipped.unitEach kind base finding).filterMap line? =
      ((Corpus.shipped.ofKind kind).map Template.name).map fun name ↦ (kind, place name) := by
    rw [Corpus.unitEach, List.filterMap_map, List.map_map, ← List.filterMap_eq_map']
    refine List.filterMap_congr fun template _ ↦ ?_
    simp [line?, hplace]
  rw [hlines]
  exact (Corpus.perm_names_ofKind kind).map _

end ArtifactUnit

namespace Project

variable {project : Project} {resolved : List Resolved}

open ArtifactUnit (line?)

theorem perm_lines_librarySource (project : Project) :
    ((Corpus.shipped.unitEach .librarySource project.libraryTokens none).filterMap line?).Perm
      ([(.librarySource, project.libraryName, project.libraryName ++ "_extern.h"),
        (.librarySource, project.libraryName, project.libraryName ++ "_support.h")].map
          Report.line) := by
  have hlines := ArtifactUnit.perm_lines_unitEach
    (fun name ↦ ⟨project.libraryName ++ "/" ++ (project.libraryName ++ "_" ++
      Text.dropStem "libyal_" (Text.afterLast '/' name))⟩)
    fun template ↦ place?_librarySource project template [] none
  have hnames : ((Template.Builtin.sources.map Prod.fst).filter fun name ↦
      ArtifactKind.ofName? name == some .librarySource) =
        ["libyal/libyal_extern.h", "libyal/libyal_support.h"] := by decide +kernel
  have hexported : Text.dropStem "libyal_" (Text.afterLast '/' "libyal/libyal_extern.h") =
      "extern.h" := by decide +kernel
  have hsupport : Text.dropStem "libyal_" (Text.afterLast '/' "libyal/libyal_support.h") =
      "support.h" := by decide +kernel
  rw [hnames] at hlines
  refine hlines.trans (.of_eq ?_)
  simp [Report.line, hexported, hsupport, String.append_assoc]

theorem perm_lines_headerStub (project : Project) :
    ((Corpus.shipped.unitEach .headerStub project.libraryTokens none).filterMap line?).Perm
      ([(.headerStub, project.bindingName, project.bindingName ++ "_guid.h")].map Report.line) := by
  have hlines := ArtifactUnit.perm_lines_unitEach
    (fun name ↦ ⟨project.bindingName ++ "/" ++ (project.bindingName ++ "_" ++
      Text.dropStem "pyyal_" (Text.afterLast '/' name))⟩)
    fun template ↦ place?_headerStub project template [] none
  have hnames : ((Template.Builtin.sources.map Prod.fst).filter fun name ↦
      ArtifactKind.ofName? name == some .headerStub) = ["pyyal/pyyal_guid.h"] := by decide +kernel
  have hguid : Text.dropStem "pyyal_" (Text.afterLast '/' "pyyal/pyyal_guid.h") = "guid.h" := by
    decide +kernel
  rw [hnames] at hlines
  refine hlines.trans (.of_eq ?_)
  simp [Report.line, hguid, String.append_assoc]

theorem perm_lines_buildMacro (project : Project) (resolved : Resolved) :
    ((Corpus.shipped.unitEach .buildMacro (project.macroTokens resolved)
      (some resolved.finding)).filterMap line?).Perm
        [Report.line (.buildMacro, "m4", resolved.dependency.libraryId ++ ".m4")] := by
  have hlines := ArtifactUnit.perm_lines_unitEach
    (fun _ ↦ ⟨"m4" ++ "/" ++ (resolved.dependency.libraryId ++ ".m4")⟩)
    fun template ↦ place?_buildMacro project template [] (some resolved.finding) resolved
  have hnames : ((Template.Builtin.sources.map Prod.fst).filter fun name ↦
      ArtifactKind.ofName? name == some .buildMacro) = ["m4/libyal_dependency.m4"] := by
    decide +kernel
  rwa [hnames] at hlines

theorem lines_testUnits (project : Project) :
    (project.testUnits .shipped).filterMap line? = project.types.map fun type ↦
      Report.line (.testSource, "tests", project.suffix ++ "_test_" ++ type.name ++ ".c") := by
  have htests : (Corpus.shipped.ofKind .testSource).isEmpty = false := by
    have hperm := Corpus.perm_names_ofKind .testSource
    have hnames : ((Template.Builtin.sources.map Prod.fst).filter fun name ↦
        ArtifactKind.ofName? name == some .testSource).length = 5 := by decide +kernel
    have hlength := hperm.length_eq
    rw [hnames, List.length_map] at hlength
    rw [List.isEmpty_eq_false_iff, ← List.length_pos_iff, hlength]
    decide
  obtain ⟨first, rest, hsections⟩ :=
    Corpus.exists_section htests Corpus.missingSection?_shipped
  rw [testUnits, htests, if_neg Bool.false_ne_true, hsections, List.filterMap_map,
    ← List.filterMap_eq_map']
  refine List.filterMap_congr fun type _ ↦ ?_
  simp [line?, place?_testSource, Report.line]

/-- The lines for the units of a project over the built-in templates. -/
theorem perm_lines_allUnits (hresolved : resolved.map (·.dependency) = project.dependencies) :
    ((project.allUnits .shipped resolved).filterMap line?).Perm
      (project.shippedFiles.map Report.line) := by
  have hmacros : ((resolved.flatMap fun dependency ↦ Corpus.shipped.unitEach .buildMacro
      (project.macroTokens dependency) (some dependency.finding)).filterMap line?).Perm
        ((project.dependencies.map fun dependency ↦
          (.buildMacro, "m4", dependency.libraryId ++ ".m4")).map Report.line) := by
    rw [← hresolved, List.filterMap_flatMap, List.map_map, List.map_map, List.map_eq_flatMap]
    exact List.Perm.flatMap_left _ fun dependency _ ↦ perm_lines_buildMacro project dependency
  rw [allUnits, List.filterMap_append, List.filterMap_append, List.filterMap_append,
    lines_testUnits, shippedFiles, List.map_append, List.map_append, List.map_map]
  refine .append (.append ?_ (.refl _)) hmacros
  exact .append (perm_lines_librarySource project) (perm_lines_headerStub project)

/-! ### Different files -/

theorem isName_of_mem_shippedFiles (hvalid : project.IsValid) :
    ∀ file ∈ project.shippedFiles, Component.IsName file.2.2 := by
  have hlibrary : '/' ∉ project.libraryName.toList :=
    not_mem_of_isIdentifierText hvalid.libraryName (by decide)
  have hmodule := slash_not_mem_bindingName hvalid
  have hsuffix := slash_not_mem_suffix hvalid
  intro file hfile
  simp only [shippedFiles, List.mem_append, List.mem_cons, List.not_mem_nil, or_false,
    List.mem_map] at hfile
  rcases hfile with ((rfl | rfl | rfl) | ⟨type, htype, rfl⟩) | ⟨dependency, hdependency, rfl⟩
  · exact Component.isName_of_mem (c := '_') (by simp) (by decide) (by simp [hlibrary])
  · exact Component.isName_of_mem (c := '_') (by simp) (by decide) (by simp [hlibrary])
  · exact Component.isName_of_mem (c := '_') (by simp) (by decide) (by simp [hmodule])
  · have htypeName : '/' ∉ type.name.toList :=
      not_mem_of_isIdentifierText (hvalid.types type htype).name (by decide)
    exact Component.isName_of_mem (c := '_') (by simp) (by decide) (by simp [hsuffix, htypeName])
  · have hlibraryId := slash_not_mem_libraryId (not_mem_of_isIdentifierText
      (hvalid.dependencies dependency hdependency) (by decide))
    exact Component.isName_of_mem (c := 'm') (by simp) (by decide) (by simp [hlibraryId])

/-- The names of the headers differ, also if the library and the module have one name. -/
theorem nodup_headerNames (library module : String) :
    [library ++ "_extern.h", library ++ "_support.h", module ++ "_guid.h"].Nodup := by
  have hexported : library ++ "_extern.h" = library ++ "_exter" ++ "n.h" := by
    simp [String.append_assoc]
  have hsupport : library ++ "_support.h" = library ++ "_suppor" ++ "t.h" := by
    simp [String.append_assoc]
  have hguid : module ++ "_guid.h" = module ++ "_gui" ++ "d.h" := by
    simp [String.append_assoc]
  rw [hexported, hsupport, hguid]
  simp [Text.append_ne_append]

theorem nodup_testNames (hvalid : project.IsValid) :
    (project.types.map fun type ↦ project.suffix ++ "_test_" ++ type.name ++ ".c").Nodup := by
  have hinjective : Function.Injective fun name ↦ project.suffix ++ "_test_" ++ name ++ ".c" :=
    fun first second heq ↦ by simpa [String.append_assoc] using heq
  simpa [Function.comp_def] using hvalid.typesDistinct.map hinjective

theorem nodup_macroNames_iff (project : Project) :
    (project.dependencies.map fun dependency ↦ dependency.libraryId ++ ".m4").Nodup ↔
      (project.dependencies.map (·.libraryId)).Nodup := by
  have hinjective : Function.Injective fun name : String ↦ name ++ ".m4" :=
    fun first second heq ↦ by simpa using heq
  have hmap := List.nodup_map_iff hinjective (l := project.dependencies.map (·.libraryId))
  rwa [List.map_map] at hmap

/-- The file names differ exactly if the library names of the dependencies do. -/
theorem nodup_shippedFiles_iff (hvalid : project.IsValid) :
    (project.shippedFiles.map (·.2.2)).Nodup ↔
      (project.dependencies.map (·.libraryId)).Nodup := by
  have hfiles : project.shippedFiles.map (·.2.2) =
      [project.libraryName ++ "_extern.h", project.libraryName ++ "_support.h",
        project.bindingName ++ "_guid.h"] ++
      project.types.map (fun type ↦ project.suffix ++ "_test_" ++ type.name ++ ".c") ++
      project.dependencies.map fun dependency ↦ dependency.libraryId ++ ".m4" := by
    simp [shippedFiles, Function.comp_def]
  -- The last letter tells headers, tests and macro files apart.
  have hheaderEnd : ∀ file ∈ [project.libraryName ++ "_extern.h",
      project.libraryName ++ "_support.h", project.bindingName ++ "_guid.h"],
      file.toList.getLast? = some 'h' := by
    simp [List.getLast?_append]
  have htestEnd : ∀ file ∈ project.types.map fun type ↦
      project.suffix ++ "_test_" ++ type.name ++ ".c", file.toList.getLast? = some 'c' := by
    simp [List.getLast?_append, List.getLast?_cons]
  have hmacroEnd : ∀ file ∈ project.dependencies.map fun dependency ↦
      dependency.libraryId ++ ".m4", file.toList.getLast? = some '4' := by
    simp [List.getLast?_append]
  rw [hfiles, List.nodup_append, List.nodup_append, nodup_macroNames_iff]
  constructor
  · exact fun hnodup ↦ hnodup.2.1
  · refine fun hnodup ↦ ⟨⟨nodup_headerNames _ _, nodup_testNames hvalid, ?_⟩, hnodup, ?_⟩
    · rintro file hheader _ htest rfl
      simpa [hheaderEnd file hheader] using htestEnd file htest
    · rintro file hother _ hmacro rfl
      rcases List.mem_append.mp hother with hheader | htest
      · simpa [hheaderEnd file hheader] using hmacroEnd file hmacro
      · simpa [htestEnd file htest] using hmacroEnd file hmacro

/-- The artifacts go to different places exactly if the library names of the dependencies differ. -/
theorem pairwise_components_iff (hvalid : project.IsValid) :
    ((project.shippedFiles.map Report.line).Pairwise fun first second ↦
      first.2.components ≠ second.2.components) ↔
        (project.dependencies.map (·.libraryId)).Nodup := by
  rw [List.pairwise_map]
  constructor
  · intro hdistinct
    rw [shippedFiles] at hdistinct
    have hmacros := (List.pairwise_append.mp hdistinct).2.1
    rw [List.pairwise_map] at hmacros
    rw [List.nodup_iff_pairwise_ne, List.pairwise_map]
    exact hmacros.imp fun {first second} hne heq ↦ hne (by rw [heq])
  · rw [← nodup_shippedFiles_iff hvalid, List.nodup_iff_pairwise_ne, List.pairwise_map]
    refine fun hdistinct ↦ hdistinct.imp_of_mem fun {first second} hfirst hsecond hne heq ↦ hne ?_
    have hlast := congrArg List.getLast? heq
    simp only [Report.line] at hlast
    rw [Path.getLast?_components (isName_of_mem_shippedFiles hvalid first hfirst),
      Path.getLast?_components (isName_of_mem_shippedFiles hvalid second hsecond)] at hlast
    simpa using hlast

/-! ### Plans -/

/-- Planning over the built-in templates fails exactly if two dependencies have the same library
name. Otherwise there is a plan for each of the files, and every plan comes to an artifact that goes
there. -/
theorem plan_shipped (hvalid : project.IsValid)
    (hresolved : resolved.map (·.dependency) = project.dependencies) :
    (¬(project.dependencies.map (·.libraryId)).Nodup →
      ∃ path, project.plan .shipped resolved = .error (.duplicateDestination path)) ∧
    ((project.dependencies.map (·.libraryId)).Nodup →
      ∃ plans, project.plan .shipped resolved = .ok ⟨plans, []⟩ ∧
        (plans.map fun plan ↦ (plan.kind, plan.destination)).Perm
          (project.shippedFiles.map Report.line) ∧
        ∀ plan ∈ plans, ∃ artifact, plan.render = .ok artifact ∧
          artifact.kind = plan.kind ∧ artifact.destination = plan.destination) := by
  obtain ⟨plans, hunits, hplaced, hplan⟩ :=
    exists_plan_eq project resolved Corpus.missingSection?_shipped
  have hlines : (plans.map fun plan ↦ (plan.kind, plan.destination)).Perm
      (project.shippedFiles.map Report.line) := by
    rw [← ArtifactUnit.filterMap_line?_plans hplaced, hunits]
    exact perm_lines_allUnits hresolved
  have hdistinct : Path.firstRepeated? [] (plans.map Plan.destination) = none ↔
      (project.dependencies.map (·.libraryId)).Nodup := by
    have hpairwise := hlines.pairwise_iff (R := fun first second ↦
      first.2.components ≠ second.2.components) fun {_ _} hne ↦ hne.symm
    rw [← pairwise_components_iff hvalid, ← hpairwise, Path.firstRepeated?_eq_none_iff,
      List.pairwise_map, List.pairwise_map]
    simp
  have hrender : ∀ plan ∈ plans, ∃ artifact, plan.render = .ok artifact ∧
      artifact.kind = plan.kind ∧ artifact.destination = plan.destination := by
    intro plan hmem
    have hunit : plan.toArtifactUnit ∈ project.allUnits .shipped resolved :=
      hunits ▸ List.mem_map_of_mem hmem
    obtain ⟨artifact, hartifact⟩ :=
      Plan.exists_render (base_of_mem_allUnits Corpus.missingSection?_shipped hunit).1
        (exists_meaning_of_mem_templates hunit)
        (exists_meaning_of_mem_allUnits Corpus.missingSection?_shipped hunit)
    exact ⟨artifact, hartifact, Plan.kind_and_destination_of_render (hplaced plan hmem) hartifact⟩
  refine ⟨fun hrepeated ↦ ?_, fun hnodup ↦ ?_⟩
  · obtain ⟨path, hpath⟩ :=
      Option.ne_none_iff_exists'.mp fun hnone ↦ hrepeated (hdistinct.mp hnone)
    exact ⟨path, by rw [hplan, hpath]⟩
  · have hsorted := (Planning.mk plans []).sorted_perm
    refine ⟨(Planning.sorted ⟨plans, []⟩).plans, ?_, (hsorted.map _).trans hlines,
      fun plan hmem ↦ hrender plan (hsorted.mem_iff.mp hmem)⟩
    rw [hplan, hdistinct.mpr hnodup]
    rfl

end Project

end Scaffold
