import Scaffold.Artifact.Kind
import Scaffold.Dependency.Decision
import Scaffold.Project.Basic
import Scaffold.Proofs.Token.Resolution

/-!
# Tokens of a project

The tokens of the library, of a type and of a finding have names of their own
(`mem_libraryNames`, `mem_tokenNames`), so they never clash: what is defined for a type and merged
for a dependency always goes through (`define_typeTokens`, `merged_tokens`). Every token that the
destination of a unit is built from is among them or can be derived (`exists_meaning_librarySource`
and its like for the other kinds).
-/

set_option autoImplicit false

namespace Scaffold

/-- The names of the tokens of a finding. -/
def Finding.tokenNames : List String :=
  ["dependency_name", "library_id", "min_version", "probe_outcome", "ac_cv_value", "have_library",
    "have_local_library", "cppflags", "ldflags", "pc_libs_private", "spec_requires",
    "spec_build_requires"]

theorem Finding.mem_tokenNames {finding : Finding} {dependency : Dependency} {name value : String}
    (hfind : (finding.tokens dependency).find? name = some value) : name ∈ tokenNames := by
  have hpair := List.mem_map_of_mem (f := Prod.fst) (Table.mem_of_find?_ofList hfind)
  exact hpair

theorem Finding.find?_library_id (finding : Finding) (dependency : Dependency) :
    (finding.tokens dependency).find? "library_id" = some dependency.libraryId := by
  rw [tokens, Table.find?_ofList]
  rfl

namespace Project

/-- The names that tokens of the library may have. -/
def libraryNames : List String :=
  ["authors", "copyright", "library_name", "library_description", "python_module_name"]

theorem mem_libraryNames {project : Project} {name value : String}
    (hfind : project.libraryTokens.find? name = some value) : name ∈ libraryNames := by
  have hpair := Table.mem_of_find?_ofList hfind
  cases hmodule : project.moduleName <;> simp [hmodule, libraryNames] at hpair ⊢ <;> grind

theorem find?_library_name (project : Project) :
    project.libraryTokens.find? "library_name" = some project.libraryName := by
  rw [libraryTokens, Table.find?_ofList]
  cases project.moduleName <;> rfl

/-! ### Nothing clashes -/

/-- The tokens of a type are defined over those of the library. -/
theorem define_typeTokens (project : Project) (type : TypeEntry) :
    (do
      let table ← TokenTable.define project.libraryTokens "type_name" type.name
      TokenTable.define table "value_name" type.valueName) = .ok (project.typeTokens type) := by
  have htype : TokenTable.define project.libraryTokens "type_name" type.name =
      .ok (project.libraryTokens.insert "type_name" type.name) :=
    TokenTable.define_of_agree fun held hheld ↦ absurd (mem_libraryNames hheld) (by decide)
  have hvalue : TokenTable.define (project.libraryTokens.insert "type_name" type.name) "value_name"
      type.valueName = .ok (project.typeTokens type) := by
    refine TokenTable.define_of_agree fun held hheld ↦ ?_
    rw [Table.find?_insert, if_neg (by decide)] at hheld
    exact absurd (mem_libraryNames hheld) (by decide)
  rw [htype]
  exact hvalue

/-- The tokens that the macro file of a resolved dependency is rendered with. -/
def macroTokens (project : Project) (resolved : Resolved) : TokenTable :=
  TokenTable.union project.libraryTokens (resolved.finding.tokens resolved.dependency)

/-- The tokens of a finding are merged with those of the library. -/
theorem merged_tokens (project : Project) (resolved : Resolved) :
    TokenTable.merged project.libraryTokens (resolved.finding.tokens resolved.dependency) =
      .ok (project.macroTokens resolved) := by
  refine TokenTable.merged_of_agree fun name held value hheld hvalue ↦ ?_
  have hdisjoint : ∀ name ∈ libraryNames, name ∉ Finding.tokenNames := by decide
  exact absurd (Finding.mem_tokenNames hvalue) (hdisjoint name (mem_libraryNames hheld))

/-! ### What destinations need -/

/-- The stem of a library name can be derived from it. -/
theorem exists_meaning_suffix {base : TokenTable} {value : String}
    (hname : base.find? "library_name" = some value) :
    ∃ suffix, Token.meaning? base "library_name_suffix" = some suffix := by
  have hrule : Token.ruleFor? "library_name_suffix" =
      some ⟨"library_name_suffix", [.valueWithoutLib "library_name"]⟩ := by decide
  refine Token.exists_meaning_of_rule hrule fun input hinput ↦ ?_
  rw [List.mem_singleton.mp hinput]
  exact ⟨value, Token.meaning?_of_supplied hname⟩

/-- The name of the binding module can be derived from the name of the library. -/
theorem exists_meaning_module {base : TokenTable} {value : String}
    (hname : base.find? "library_name" = some value) :
    ∃ module, Token.meaning? base "python_module_name" = some module := by
  have hrule : Token.ruleFor? "python_module_name" =
      some ⟨"python_module_name", [.text "py", .value "library_name_suffix"]⟩ := by decide
  refine Token.exists_meaning_of_rule hrule fun input hinput ↦ ?_
  rw [List.mem_singleton.mp hinput]
  exact exists_meaning_suffix hname

theorem find?_typeTokens_library_name (project : Project) (type : TypeEntry) :
    (project.typeTokens type).find? "library_name" = some project.libraryName := by
  rw [typeTokens, Table.find?_insert, if_neg (by decide), Table.find?_insert, if_neg (by decide),
    find?_library_name]

theorem find?_typeTokens_type_name (project : Project) (type : TypeEntry) :
    (project.typeTokens type).find? "type_name" = some type.name := by
  rw [typeTokens, Table.find?_insert, if_neg (by decide), Table.find?_insert, if_pos rfl]

theorem find?_macroTokens_library_id (project : Project) (resolved : Resolved) :
    (project.macroTokens resolved).find? "library_id" = some resolved.dependency.libraryId := by
  rw [macroTokens, TokenTable.find?_union, Finding.find?_library_id, Option.some_or]

theorem exists_meaning_librarySource (project : Project) :
    ∀ token ∈ ArtifactKind.librarySource.destinationTokens,
      ∃ value, Token.meaning? project.libraryTokens token = some value := by
  intro token htoken
  rw [List.mem_singleton.mp htoken]
  exact ⟨_, Token.meaning?_of_supplied (find?_library_name project)⟩

theorem exists_meaning_headerStub (project : Project) :
    ∀ token ∈ ArtifactKind.headerStub.destinationTokens,
      ∃ value, Token.meaning? project.libraryTokens token = some value := by
  intro token htoken
  rw [List.mem_singleton.mp htoken]
  exact exists_meaning_module (find?_library_name project)

theorem exists_meaning_testSource (project : Project) (type : TypeEntry) :
    ∀ token ∈ ArtifactKind.testSource.destinationTokens,
      ∃ value, Token.meaning? (project.typeTokens type) token = some value := by
  intro token htoken
  rcases List.mem_cons.mp htoken with rfl | htoken
  · exact exists_meaning_suffix (find?_typeTokens_library_name project type)
  · rw [List.mem_singleton.mp htoken]
    exact ⟨_, Token.meaning?_of_supplied (find?_typeTokens_type_name project type)⟩

theorem exists_meaning_buildMacro (project : Project) (dependency : Resolved) :
    ∀ token ∈ ArtifactKind.buildMacro.destinationTokens,
      ∃ value, Token.meaning? (project.macroTokens dependency) token = some value := by
  intro token htoken
  rw [List.mem_singleton.mp htoken]
  exact ⟨_, Token.meaning?_of_supplied (find?_macroTokens_library_id project dependency)⟩

end Project

end Scaffold
