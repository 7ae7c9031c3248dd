import Scaffold.Proofs.Artifact.Planning

/-!
# Where the units of a project go

A unit goes to the folder and the file that the meanings of its tokens give (`place?_eq`). For the
units of a project these meanings come down to the names in the project: the name of the library,
its `suffix` without the leading `lib`, and the name of the binding module, `bindingName`, which is
made from the suffix unless the project gives one (`place?_librarySource` and its like for the other
kinds).
-/

set_option autoImplicit false

namespace Scaffold

namespace ArtifactKind

variable {kind : ArtifactKind} {first second : String → String}

/-- The folder depends on nothing but the values of the tokens of the destination. -/
theorem folder_congr (hsame : ∀ token ∈ kind.destinationTokens, first token = second token) :
    kind.folder first = kind.folder second := by
  cases kind <;> simp_all [folder, destinationTokens]

/-- The file name depends on nothing else either. -/
theorem fileName_congr (template : String)
    (hsame : ∀ token ∈ kind.destinationTokens, first token = second token) :
    kind.fileName first template = kind.fileName second template := by
  cases kind <;> simp_all [fileName, destinationTokens]

end ArtifactKind

/-- The meaning of a token, empty for a token without one. -/
def Token.valueOf (base : TokenTable) (token : String) : String :=
  (Token.meaning? base token).getD ""

theorem Token.valueOf_eq {base : TokenTable} {token value : String}
    (hmeaning : Token.meaning? base token = some value) : Token.valueOf base token = value := by
  rw [valueOf, hmeaning, Option.getD_some]

namespace ArtifactUnit

/-- A unit goes to the folder and the file that the meanings of its tokens give. -/
theorem place?_eq {kind : ArtifactKind} {base : TokenTable} (first : Template)
    (rest : List Template) (finding : Option Finding)
    (htokens : ∀ token ∈ kind.destinationTokens,
      ∃ value, Token.meaning? base token = some value) :
    place? ⟨kind, first :: rest, base, finding⟩ =
      some ⟨kind.folder (Token.valueOf base) ++ "/" ++
        kind.fileName (Token.valueOf base) first.name⟩ := by
  obtain ⟨table, hresolve, hfind, hvalues⟩ := Token.exists_resolved _ first.name htokens
  have habsent := Template.firstAbsent?_eq_none_iff.mpr hvalues
  have hsame : ∀ token ∈ kind.destinationTokens,
      (table.find? token).getD "" = Token.valueOf base token :=
    fun token htoken ↦ by rw [hfind token htoken, Token.valueOf]
  have hdestination : kind.destination first.name table =
      .ok ⟨kind.folder (Token.valueOf base) ++ "/" ++
        kind.fileName (Token.valueOf base) first.name⟩ := by
    rw [ArtifactKind.destination_eq_join, habsent, ArtifactKind.folder_congr hsame,
      ArtifactKind.fileName_congr first.name hsame]
  simp only [place?, destination, hresolve]
  exact congrArg Except.toOption hdestination

end ArtifactUnit

namespace Project

/-! ### Names made from the name of the library -/

/-- The name of the library without its leading `lib`. -/
def suffix (project : Project) : String :=
  Text.dropStem "lib" project.libraryName

/-- The name of the binding module, made from the name of the library unless it is given. -/
def bindingName (project : Project) : String :=
  project.moduleName.getD ("py" ++ project.suffix)

theorem meaning?_suffix {base : TokenTable} {project : Project}
    (hname : base.find? "library_name" = some project.libraryName)
    (hfree : base.find? "library_name_suffix" = none) :
    Token.meaning? base "library_name_suffix" = some project.suffix := by
  have hrule : Token.ruleFor? "library_name_suffix" =
      some ⟨"library_name_suffix", [.valueWithoutLib "library_name"]⟩ := by decide
  rw [Token.meaning?_of_input hfree hrule rfl (Token.meaning?_of_supplied hname)]
  simp [Token.Rule.derive, Token.assemble, Token.Part.input?, Token.Part.render, suffix]

theorem find?_libraryTokens_eq_none {project : Project} {name : String}
    (hname : name ∉ libraryNames) : project.libraryTokens.find? name = none := by
  rw [Option.eq_none_iff_forall_not_mem]
  exact fun value hvalue ↦ hname (mem_libraryNames hvalue)

theorem find?_python_module_name (project : Project) :
    project.libraryTokens.find? "python_module_name" = project.moduleName := by
  rw [libraryTokens, Table.find?_ofList]
  cases project.moduleName <;> rfl

theorem valueOf_library_name (project : Project) :
    Token.valueOf project.libraryTokens "library_name" = project.libraryName :=
  Token.valueOf_eq (Token.meaning?_of_supplied (find?_library_name project))

/-- The name of the binding module is the given one, or is derived from the name of the library. -/
theorem meaning?_bindingName {base : TokenTable} {project : Project}
    (hname : base.find? "library_name" = some project.libraryName)
    (hfree : base.find? "library_name_suffix" = none)
    (hgiven : base.find? "python_module_name" = project.moduleName) :
    Token.meaning? base "python_module_name" = some project.bindingName := by
  rw [bindingName]
  cases hmodule : project.moduleName with
  | some name =>
    rw [hmodule] at hgiven
    exact Token.meaning?_of_supplied hgiven
  | none =>
    rw [hmodule] at hgiven
    have hrule : Token.ruleFor? "python_module_name" =
        some ⟨"python_module_name", [.text "py", .value "library_name_suffix"]⟩ := by decide
    rw [Token.meaning?_of_input hgiven hrule rfl (meaning?_suffix hname hfree)]
    simp [Token.Rule.derive, Token.assemble, Token.Part.input?, Token.Part.render]

theorem valueOf_python_module_name (project : Project) :
    Token.valueOf project.libraryTokens "python_module_name" = project.bindingName :=
  Token.valueOf_eq (meaning?_bindingName (find?_library_name project)
    (find?_libraryTokens_eq_none (by decide)) (find?_python_module_name project))

theorem find?_typeTokens_eq_none {project : Project} {type : TypeEntry} {name : String}
    (hname : name ∉ "type_name" :: "value_name" :: libraryNames) :
    (project.typeTokens type).find? name = none := by
  simp only [List.mem_cons, not_or] at hname
  rw [typeTokens, Table.find?_insert, if_neg (Ne.symm hname.2.1), Table.find?_insert,
    if_neg (Ne.symm hname.1), find?_libraryTokens_eq_none hname.2.2]

theorem meaning?_typeTokens_suffix (project : Project) (type : TypeEntry) :
    Token.meaning? (project.typeTokens type) "library_name_suffix" = some project.suffix :=
  meaning?_suffix (find?_typeTokens_library_name project type)
    (find?_typeTokens_eq_none (by decide))

theorem valueOf_library_name_suffix (project : Project) (type : TypeEntry) :
    Token.valueOf (project.typeTokens type) "library_name_suffix" = project.suffix :=
  Token.valueOf_eq (meaning?_typeTokens_suffix project type)

theorem valueOf_type_name (project : Project) (type : TypeEntry) :
    Token.valueOf (project.typeTokens type) "type_name" = type.name :=
  Token.valueOf_eq (Token.meaning?_of_supplied (find?_typeTokens_type_name project type))

theorem valueOf_library_id (project : Project) (resolved : Resolved) :
    Token.valueOf (project.macroTokens resolved) "library_id" = resolved.dependency.libraryId :=
  Token.valueOf_eq (Token.meaning?_of_supplied (find?_macroTokens_library_id project resolved))

/-! ### Places -/

section Places

variable (project : Project) (first : Template) (rest : List Template) (finding : Option Finding)

theorem place?_librarySource :
    ArtifactUnit.place? ⟨.librarySource, first :: rest, project.libraryTokens, finding⟩ =
      some ⟨project.libraryName ++ "/" ++ (project.libraryName ++ "_" ++
        Text.dropStem "libyal_" (Text.afterLast '/' first.name))⟩ := by
  rw [ArtifactUnit.place?_eq first rest finding (exists_meaning_librarySource project)]
  simp only [ArtifactKind.folder, ArtifactKind.fileName, valueOf_library_name]

theorem place?_headerStub :
    ArtifactUnit.place? ⟨.headerStub, first :: rest, project.libraryTokens, finding⟩ =
      some ⟨project.bindingName ++ "/" ++ (project.bindingName ++ "_" ++
        Text.dropStem "pyyal_" (Text.afterLast '/' first.name))⟩ := by
  rw [ArtifactUnit.place?_eq first rest finding (exists_meaning_headerStub project)]
  simp only [ArtifactKind.folder, ArtifactKind.fileName, valueOf_python_module_name]

theorem place?_testSource (type : TypeEntry) :
    ArtifactUnit.place? ⟨.testSource, first :: rest, project.typeTokens type, finding⟩ =
      some ⟨"tests" ++ "/" ++ (project.suffix ++ "_test_" ++ type.name ++ ".c")⟩ := by
  rw [ArtifactUnit.place?_eq first rest finding (exists_meaning_testSource project type)]
  simp only [ArtifactKind.folder, ArtifactKind.fileName, valueOf_library_name_suffix,
    valueOf_type_name]

theorem place?_buildMacro (resolved : Resolved) :
    ArtifactUnit.place? ⟨.buildMacro, first :: rest, project.macroTokens resolved, finding⟩ =
      some ⟨"m4" ++ "/" ++ (resolved.dependency.libraryId ++ ".m4")⟩ := by
  rw [ArtifactUnit.place?_eq first rest finding (exists_meaning_buildMacro project resolved)]
  simp only [ArtifactKind.folder, ArtifactKind.fileName, valueOf_library_id]

end Places

/-- A unit of a project has templates, all of its kind, and its tokens are those of the library, of
a type or of a resolved dependency, as its kind says. -/
theorem base_of_mem_allUnits {project : Project} {corpus : Corpus} {resolved : List Resolved}
    {unit : ArtifactUnit} (hcomplete : corpus.missingSection? = none)
    (hunit : unit ∈ project.allUnits corpus resolved) :
    unit.templates ≠ [] ∧ (∀ template ∈ unit.templates, template ∈ corpus.ofKind unit.kind) ∧
      ((unit.kind = .librarySource ∨ unit.kind = .headerStub) ∧
          unit.base = project.libraryTokens ∨
        (∃ type ∈ project.types, unit.kind = .testSource ∧ unit.base = project.typeTokens type) ∨
        ∃ dependency ∈ resolved,
          unit.kind = .buildMacro ∧ unit.base = project.macroTokens dependency) := by
  simp only [allUnits, Corpus.unitEach, List.mem_append, List.mem_map, List.mem_flatMap] at hunit
  rcases hunit with ((⟨template, htemplate, rfl⟩ | ⟨template, htemplate, rfl⟩) | htest) |
    ⟨dependency, hdependency, template, htemplate, rfl⟩
  · exact ⟨by simp, by simpa using htemplate, .inl ⟨.inl rfl, by dsimp only⟩⟩
  · exact ⟨by simp, by simpa using htemplate, .inl ⟨.inr rfl, by dsimp only⟩⟩
  · rw [testUnits] at htest
    cases htests : (corpus.ofKind .testSource).isEmpty with
    | true => simp [htests] at htest
    | false =>
      rw [htests] at htest
      obtain ⟨type, htype, rfl⟩ := List.mem_map.mp htest
      obtain ⟨first, rest, hsections⟩ := Corpus.exists_section htests hcomplete
      exact ⟨by simp [hsections], fun template ↦ Corpus.mem_ofKind_of_mem_sections,
        .inr (.inl ⟨type, htype, rfl, by dsimp only⟩)⟩
  · exact ⟨by simp, by simpa using htemplate,
      .inr (.inr ⟨dependency, hdependency, rfl, by dsimp only⟩)⟩

/-- The tokens that the destination of a unit is built from all have a meaning. -/
theorem exists_meaning_of_mem_allUnits {project : Project} {corpus : Corpus}
    {resolved : List Resolved} {unit : ArtifactUnit} (hcomplete : corpus.missingSection? = none)
    (hunit : unit ∈ project.allUnits corpus resolved) :
    ∀ token ∈ unit.kind.destinationTokens,
      ∃ value, Token.meaning? unit.base token = some value := by
  obtain ⟨-, -, (⟨hkind | hkind, hbase⟩ | ⟨type, -, hkind, hbase⟩ |
    ⟨dependency, -, hkind, hbase⟩)⟩ :=
      base_of_mem_allUnits hcomplete hunit <;> rw [hkind, hbase]
  · exact exists_meaning_librarySource project
  · exact exists_meaning_headerStub project
  · exact exists_meaning_testSource project type
  · exact exists_meaning_buildMacro project dependency

/-- A plan that planning gives is for a unit of the project, and goes where that unit goes. -/
theorem unit_of_mem_plan {project : Project} {corpus : Corpus} {resolved : List Resolved}
    {planning : Planning} {plan : Plan} (hplan : project.plan corpus resolved = .ok planning)
    (hmem : plan ∈ planning.plans) :
    corpus.missingSection? = none ∧ plan.toArtifactUnit ∈ project.allUnits corpus resolved ∧
      plan.IsPlaced := by
  obtain ⟨hcomplete, hplaced, hperm⟩ := perm_units_of_plan hplan
  exact ⟨hcomplete, hperm.mem_iff.mp (List.mem_map_of_mem hmem), hplaced plan hmem⟩

/-- The destination of a plan is a folder and a file that the meanings of its tokens give. -/
theorem destination_of_mem_plan {project : Project} {corpus : Corpus} {resolved : List Resolved}
    {planning : Planning} {plan : Plan} (hplan : project.plan corpus resolved = .ok planning)
    (hmem : plan ∈ planning.plans) :
    ∃ template, plan.destination = ⟨plan.kind.folder (Token.valueOf plan.base) ++ "/" ++
      plan.kind.fileName (Token.valueOf plan.base) template⟩ := by
  obtain ⟨hcomplete, hunit, hplaced⟩ := unit_of_mem_plan hplan hmem
  have htokens := exists_meaning_of_mem_allUnits hcomplete hunit
  obtain ⟨first, rest, htemplates, -⟩ := hplaced.exists_first
  obtain ⟨⟨kind, templates, base, finding⟩, destination⟩ := plan
  obtain rfl : templates = first :: rest := htemplates
  have hplace := ArtifactUnit.place?_eq first rest finding htokens
  exact ⟨first.name, Option.some.inj (hplaced.symm.trans hplace)⟩

end Project

end Scaffold
