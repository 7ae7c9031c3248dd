import Scaffold.Proofs.Project.Destinations
import Scaffold.Proofs.Project.Naming

/-!
# Identifiers made from the names of a project

Templates take the names of functions, macros and types from tokens that are put together from the
names of a project. An identifier behind a text of such characters as identifiers have is one
unless that text begins with a digit (`isIdentifier_append_iff`), and the upper-case form of such a
text is an identifier exactly if the text is (`isIdentifier_upperCase_iff`).

The names of a valid project are made of such characters, so of these tokens only two can go wrong
(`identifierTokens_name_identifiers`): the prefix of tests, which begins with the suffix of the
library name, when a digit follows the leading `lib`, and the name of the binding module, when it is
given as the empty text.
-/

set_option autoImplicit false

namespace Scaffold

/-! ### Texts of identifier characters -/

/-- The text has no other characters than identifiers have. -/
def HasIdentifierParts (text : String) : Prop :=
  ∀ c ∈ text.toList, IsIdentifierPart c

/-- The first character of the text is a digit. -/
def BeginsWithDigit (text : String) : Prop :=
  text.toList.head?.any Char.isDigit = true

instance : DecidablePred BeginsWithDigit :=
  fun text ↦ inferInstanceAs (Decidable (text.toList.head?.any Char.isDigit = true))

theorem hasIdentifierParts_append {first second : String} :
    HasIdentifierParts (first ++ second) ↔
      HasIdentifierParts first ∧ HasIdentifierParts second := by
  simp only [HasIdentifierParts, String.toList_append, List.mem_append, or_imp, forall_and]

/-- An identifier is a text of its characters that is not empty and begins with no digit. -/
theorem isIdentifier_iff {text : String} :
    IsIdentifier text ↔ HasIdentifierParts text ∧ text ≠ "" ∧ ¬BeginsWithDigit text := by
  rw [IsIdentifier, HasIdentifierParts, BeginsWithDigit, Ne, ← String.toList_eq_nil_iff]
  cases text.toList with
  | nil => simp
  | cons first rest =>
    simp only [List.cons.injEq, List.forall_mem_cons, List.head?_cons, Option.any_some,
      reduceCtorEq, not_false_eq_true, true_and, Bool.not_eq_true]
    constructor
    · rintro ⟨_, _, ⟨rfl, rfl⟩, hstart, hrest⟩
      obtain ⟨hpart, hdigit⟩ := (isIdentifierStart_iff first).mp hstart
      exact ⟨⟨hpart, hrest⟩, hdigit⟩
    · rintro ⟨⟨hpart, hrest⟩, hdigit⟩
      exact ⟨first, rest, ⟨rfl, rfl⟩, (isIdentifierStart_iff first).mpr ⟨hpart, hdigit⟩, hrest⟩

theorem beginsWithDigit_append {first second : String} :
    BeginsWithDigit (first ++ second) ↔
      BeginsWithDigit first ∨ first = "" ∧ BeginsWithDigit second := by
  rw [BeginsWithDigit, BeginsWithDigit, BeginsWithDigit, String.toList_append,
    ← String.toList_eq_nil_iff]
  cases first.toList <;> simp

/-- An identifier stays one before a text of identifier characters. -/
theorem isIdentifier_append {first second : String} (hfirst : IsIdentifier first)
    (hsecond : HasIdentifierParts second) : IsIdentifier (first ++ second) := by
  obtain ⟨hparts, hfull, hdigit⟩ := isIdentifier_iff.mp hfirst
  have hne : first ++ second ≠ "" := by simp [hfull]
  rw [isIdentifier_iff, hasIdentifierParts_append, beginsWithDigit_append]
  simp [hparts, hsecond, hne, hfull, hdigit]

/-- An identifier stays one behind a text of identifier characters, unless that text begins with a
digit. -/
theorem isIdentifier_append_iff {first second : String} (hfirst : HasIdentifierParts first)
    (hsecond : IsIdentifier second) :
    IsIdentifier (first ++ second) ↔ ¬BeginsWithDigit first := by
  obtain ⟨hparts, hfull, hdigit⟩ := isIdentifier_iff.mp hsecond
  have hne : first ++ second ≠ "" := by simp [hfull]
  rw [isIdentifier_iff, hasIdentifierParts_append, beginsWithDigit_append]
  simp [hfirst, hparts, hne, hdigit]

/-! ### Upper-case forms -/

/-- A character of a macro name is one of an identifier. -/
theorem isIdentifierPart_of_isMacroChar {c : Char} (hc : Token.isMacroChar c = true) :
    IsIdentifierPart c := by
  rcases (Token.isMacroChar_iff c).mp hc with hcapital | hdigit | rfl
  · exact .inl (.inl hcapital)
  · exact .inr hdigit
  · exact .inl (.inr (.inr rfl))

/-- The upper-case form of a character is a digit only if the character is. -/
theorem isDigit_upperChar (c : Char) : (Token.upperChar c).isDigit = c.isDigit := by
  rw [Token.upperChar_eq]
  cases hlower : c.isLower with
  | true =>
    have hall : ∀ offset < 26, (Char.ofNat (97 + offset)).toUpper.isDigit = false ∧
        (Char.ofNat (97 + offset)).isDigit = false := by decide
    have hcode := (Token.isLower_iff c).mp hlower
    have hchar := hall (c.toNat - 97) (by omega)
    rw [Nat.add_sub_cancel' hcode.1, Char.ofNat_toNat] at hchar
    simp [hchar]
  | false =>
    rw [Token.toUpper_of_not_isLower hlower]
    cases hdigit : c.isDigit with
    | true => simp [Token.isMacroChar, hdigit]
    | false =>
      split
      · exact hdigit
      · decide

theorem beginsWithDigit_upperCase {text : String} :
    BeginsWithDigit (Token.upperCase text) ↔ BeginsWithDigit text := by
  rw [BeginsWithDigit, BeginsWithDigit, Token.upperCase, String.toList_map]
  cases text.toList <;> simp [isDigit_upperChar]

/-- The upper-case form of a text of identifier characters is an identifier exactly if the text is
one. -/
theorem isIdentifier_upperCase_iff {text : String} (htext : HasIdentifierParts text) :
    IsIdentifier (Token.upperCase text) ↔ IsIdentifier text := by
  have hupper : HasIdentifierParts (Token.upperCase text) := fun c hc ↦
    isIdentifierPart_of_isMacroChar (Token.forall_mem_upperCase text c hc)
  have hempty : Token.upperCase text = "" ↔ text = "" := by
    rw [← String.toList_eq_nil_iff, Token.upperCase, String.toList_map, List.map_eq_nil_iff,
      String.toList_eq_nil_iff]
  rw [isIdentifier_iff, isIdentifier_iff, beginsWithDigit_upperCase, Ne, hempty]
  simp [hupper, htext]

namespace Project

/-! ### The tokens of a type -/

/-- Tokens that templates take the names of functions, macros and types from, the upper-case forms
aside. -/
def identifierStems : List String :=
  ["type_prefix", "test_prefix", "python_module_name", "python_module_guid"]

/-- The tokens that templates take such names from. -/
def identifierTokens : List String :=
  identifierStems.flatMap fun stem ↦ [stem, stem ++ Token.upperCaseEnding]

/-- The name that a type of the library gives to a token: the prefix of its functions, the prefix of
its tests, the name of the binding module or that of the identifier in it. -/
def identifier (project : Project) (type : TypeEntry) (stem : String) : String :=
  if stem = "type_prefix" then "lib" ++ project.suffix ++ "_" ++ type.name
  else if stem = "test_prefix" then project.suffix ++ "_test_" ++ type.name
  else if stem = "python_module_name" then project.bindingName
  else project.bindingName ++ "_guid"

section Meanings

variable {project : Project} {type : TypeEntry}

theorem find?_typeTokens_module :
    (project.typeTokens type).find? "python_module_name" = project.moduleName := by
  rw [typeTokens, Table.find?_insert, if_neg (by decide), Table.find?_insert, if_neg (by decide),
    find?_python_module_name]

theorem meaning?_typeTokens_module :
    Token.meaning? (project.typeTokens type) "python_module_name" = some project.bindingName :=
  meaning?_bindingName (find?_typeTokens_library_name project type)
    (find?_typeTokens_eq_none (by decide)) find?_typeTokens_module

/-- The names that a type of the library gives to the tokens are their meanings. -/
theorem meaning?_identifier {stem : String} (hstem : stem ∈ identifierStems) :
    Token.meaning? (project.typeTokens type) stem = some (project.identifier type stem) := by
  have htype : Token.meaning? (project.typeTokens type) "type_name" = some type.name :=
    Token.meaning?_of_supplied (find?_typeTokens_type_name project type)
  have hinputs : ["library_name_suffix", "type_name"].mapM
      (Token.meaning? (project.typeTokens type)) = some [project.suffix, type.name] := by
    simp [meaning?_typeTokens_suffix project type, htype]
  simp only [identifierStems, List.mem_cons, List.not_mem_nil, or_false] at hstem
  rcases hstem with rfl | rfl | rfl | rfl
  · have hrule : Token.ruleFor? "type_prefix" = some ⟨"type_prefix",
        [.text "lib", .value "library_name_suffix", .text "_", .value "type_name"]⟩ := by decide
    rw [Token.meaning?_of_inputs (find?_typeTokens_eq_none (by decide)) hrule rfl hinputs]
    simp [Token.Rule.derive, Token.assemble, Token.Part.input?, Token.Part.render, identifier,
      String.append_assoc]
  · have hrule : Token.ruleFor? "test_prefix" = some ⟨"test_prefix",
        [.value "library_name_suffix", .text "_test_", .value "type_name"]⟩ := by decide
    rw [Token.meaning?_of_inputs (find?_typeTokens_eq_none (by decide)) hrule rfl hinputs]
    simp [Token.Rule.derive, Token.assemble, Token.Part.input?, Token.Part.render, identifier,
      String.append_assoc]
  · exact meaning?_typeTokens_module
  · have hrule : Token.ruleFor? "python_module_guid" = some ⟨"python_module_guid",
        [.value "python_module_name", .text "_guid"]⟩ := by decide
    rw [Token.meaning?_of_input (find?_typeTokens_eq_none (by decide)) hrule rfl
      meaning?_typeTokens_module]
    simp [Token.Rule.derive, Token.assemble, Token.Part.input?, Token.Part.render, identifier]

/-- The upper-case form of such a name is what the upper-case form of its token means. -/
theorem meaning?_identifier_upper_case {stem : String} (hstem : stem ∈ identifierStems) :
    Token.meaning? (project.typeTokens type) (stem ++ Token.upperCaseEnding) =
      some (Token.upperCase (project.identifier type stem)) := by
  have hderived : ∀ stem ∈ identifierStems,
      stem ++ Token.upperCaseEnding ∉ "type_name" :: "value_name" :: libraryNames ∧
        Token.ruleFor? (stem ++ Token.upperCaseEnding) = none ∧ stem ≠ "" := by decide
  obtain ⟨hname, hrule, hfull⟩ := hderived stem hstem
  rw [Token.meaning?_of_stem (find?_typeTokens_eq_none hname) hrule
    (Token.stem?_eq_some_iff.mpr ⟨hfull, rfl⟩), meaning?_identifier hstem, Option.map_some]

end Meanings

/-! ### Names that are identifiers -/

variable {project : Project} {type : TypeEntry}

/-- One of the names that the project gives to tokens is no identifier: a library name with a digit
behind its leading `lib` spoils the prefix of tests, and the empty text given for the binding module
is no identifier itself. -/
def Misnames (project : Project) (stem : String) : Prop :=
  (stem = "test_prefix" ∧ ∃ rest, project.libraryName = "lib" ++ rest ∧ BeginsWithDigit rest) ∨
    (stem = "python_module_name" ∧ project.moduleName = some "")

/-- A text that the check of names takes is an identifier if it is not empty. -/
theorem isIdentifier_of_isIdentifierText {text : String} (htext : isIdentifierText text = true)
    (hfull : text ≠ "") : IsIdentifier text :=
  (isIdentifierText_iff.mp htext).resolve_left hfull

theorem hasIdentifierParts_of_isIdentifierText {text : String}
    (htext : isIdentifierText text = true) : HasIdentifierParts text := by
  rcases isIdentifierText_iff.mp htext with rfl | hidentifier
  · simp [HasIdentifierParts]
  · exact (isIdentifier_iff.mp hidentifier).1

/-- No text that the check of names takes begins with a digit. -/
theorem not_beginsWithDigit_of_isIdentifierText {text : String}
    (htext : isIdentifierText text = true) : ¬BeginsWithDigit text := by
  rcases isIdentifierText_iff.mp htext with rfl | hidentifier
  · decide
  · exact (isIdentifier_iff.mp hidentifier).2.2

theorem hasIdentifierParts_suffix (hvalid : project.IsValid) : HasIdentifierParts project.suffix :=
  fun c hc ↦ hasIdentifierParts_of_isIdentifierText hvalid.libraryName c
    (Text.mem_of_mem_dropStem hc)

/-- The suffix begins with a digit only behind a leading `lib`, which the check of the library name
looks at instead. -/
theorem beginsWithDigit_suffix_iff (hvalid : project.IsValid) :
    BeginsWithDigit project.suffix ↔
      ∃ rest, project.libraryName = "lib" ++ rest ∧ BeginsWithDigit rest := by
  constructor
  · intro hdigit
    rcases Text.eq_dropStem_or_eq_append "lib" project.libraryName with hsame | hstem
    · refine absurd hdigit ?_
      rw [suffix, ← hsame]
      exact not_beginsWithDigit_of_isIdentifierText hvalid.libraryName
    · exact ⟨_, hstem, hdigit⟩
  · rintro ⟨rest, hname, hdigit⟩
    have hsuffix : project.suffix = rest := by
      rw [suffix, Text.dropStem, Text.stripStem?_eq_some_iff.mpr hname.symm, Option.getD_some]
    rwa [hsuffix]

/-- The name of the binding module is checked where it is given, and begins with `py` otherwise. -/
theorem isIdentifierText_bindingName (hvalid : project.IsValid) :
    isIdentifierText project.bindingName = true := by
  rw [bindingName]
  cases hmodule : project.moduleName with
  | some name => exact hvalid.moduleName name hmodule
  | none =>
    have hpy : IsIdentifier "py" := isIdentifier_of_isIdentifierText (by decide) (by decide)
    exact isIdentifierText_iff.mpr (.inr
      (isIdentifier_append hpy (hasIdentifierParts_suffix hvalid)))

theorem bindingName_eq_empty_iff : project.bindingName = "" ↔ project.moduleName = some "" := by
  rw [bindingName]
  cases project.moduleName <;> simp

/-- The names that a type of a valid project gives to tokens are made of the characters of
identifiers, and are identifiers with the two exceptions. -/
theorem isIdentifier_identifier_iff (hvalid : project.IsValid) (htype : type ∈ project.types)
    {stem : String} (hstem : stem ∈ identifierStems) :
    HasIdentifierParts (project.identifier type stem) ∧
      (IsIdentifier (project.identifier type stem) ↔ ¬project.Misnames stem) := by
  have hidentifier : IsIdentifier type.name := named_and_isIdentifierText_iff.mp
    ⟨(hvalid.types type htype).named, (hvalid.types type htype).name⟩
  have hname := (isIdentifier_iff.mp hidentifier).1
  have hsuffix := hasIdentifierParts_suffix hvalid
  have hbinding := isIdentifierText_bindingName hvalid
  have hparts := hasIdentifierParts_of_isIdentifierText hbinding
  have hdigit := not_beginsWithDigit_of_isIdentifierText hbinding
  simp only [identifierStems, List.mem_cons, List.not_mem_nil, or_false] at hstem
  rcases hstem with rfl | rfl | rfl | rfl
  · have hlib : IsIdentifier "lib" := isIdentifier_of_isIdentifierText (by decide) (by decide)
    have hmark : HasIdentifierParts "_" := hasIdentifierParts_of_isIdentifierText (by decide)
    have hwhole : IsIdentifier (project.identifier type "type_prefix") :=
      isIdentifier_append (isIdentifier_append (isIdentifier_append hlib hsuffix) hmark) hname
    simp [(isIdentifier_iff.mp hwhole).1, hwhole, Misnames]
  · have htest : IsIdentifier "_test_" := isIdentifier_of_isIdentifierText (by decide) (by decide)
    have hending : IsIdentifier ("_test_" ++ type.name) := isIdentifier_append htest hname
    have hwhole : project.identifier type "test_prefix" =
        project.suffix ++ ("_test_" ++ type.name) := String.append_assoc ..
    rw [hwhole, isIdentifier_append_iff hsuffix hending, hasIdentifierParts_append,
      beginsWithDigit_suffix_iff hvalid]
    simp [hsuffix, (isIdentifier_iff.mp hending).1, Misnames]
  · have hmodule : project.identifier type "python_module_name" = project.bindingName := rfl
    rw [hmodule, isIdentifier_iff]
    simp [hparts, hdigit, bindingName_eq_empty_iff, Misnames]
  · have hguid : IsIdentifier "_guid" := isIdentifier_of_isIdentifierText (by decide) (by decide)
    have hentity : project.identifier type "python_module_guid" = project.bindingName ++ "_guid" :=
      rfl
    rw [hentity, isIdentifier_append_iff hparts hguid, hasIdentifierParts_append]
    simp [hparts, hdigit, (isIdentifier_iff.mp hguid).1, Misnames]

/-- Identifiers are made from the names of a project. For a project that was read and a type of it,
the tokens that templates take names from can all be resolved, and what the prefix of functions and
the name of the module's identifier come to is an identifier, and so are their upper-case forms. The
prefix of tests is one unless a digit follows the leading `lib` of the library name, and the name of
the binding module is one unless it is given as the empty text; the same holds of their upper-case
forms. -/
theorem identifierTokens_name_identifiers {text : String} (hproject : ofText text = .ok project)
    (htype : type ∈ project.types) (context : String) :
    ∃ resolved,
      Token.resolve (project.typeTokens type) identifierTokens context = .ok resolved ∧
      ∀ stem ∈ identifierStems, ∀ token ∈ [stem, stem ++ Token.upperCaseEnding],
        ∃ value, resolved.find? token = some value ∧
          (IsIdentifier value ↔ ¬project.Misnames stem) := by
  have hmeaning : ∀ stem ∈ identifierStems, ∀ token ∈ [stem, stem ++ Token.upperCaseEnding],
      ∃ value, Token.meaning? (project.typeTokens type) token = some value ∧
        (IsIdentifier value ↔ ¬project.Misnames stem) := by
    intro stem hstem token htoken
    obtain ⟨hparts, hidentifier⟩ :=
      isIdentifier_identifier_iff (isValid_of_ofText hproject) htype hstem
    rcases List.mem_cons.mp htoken with rfl | hupper
    · exact ⟨_, meaning?_identifier hstem, hidentifier⟩
    · rw [List.mem_singleton.mp hupper]
      exact ⟨_, meaning?_identifier_upper_case hstem,
        (isIdentifier_upperCase_iff hparts).trans hidentifier⟩
  have hlisted : ∀ token ∈ identifierTokens,
      ∃ value, Token.meaning? (project.typeTokens type) token = some value := by
    intro token htoken
    obtain ⟨stem, hstem, htoken⟩ := List.mem_flatMap.mp htoken
    obtain ⟨value, hvalue, -⟩ := hmeaning stem hstem token htoken
    exact ⟨value, hvalue⟩
  obtain ⟨resolved, hresolve, hfind, -⟩ := Token.exists_resolved identifierTokens context hlisted
  refine ⟨resolved, hresolve, fun stem hstem token htoken ↦ ?_⟩
  rw [hfind token (List.mem_flatMap.mpr ⟨stem, hstem, htoken⟩)]
  exact hmeaning stem hstem token htoken

/-- All names of a type `widget` of a library `libexample` are identifiers, such as the upper-case
prefix of its tests. -/
theorem identifierTokens_name_identifiers_of_widget :
    ∃ project resolved,
      ofText "library:\n  name: libexample\n  types:\n  - name: widget\n" = .ok project ∧
      Token.resolve (project.typeTokens ⟨"widget", "value"⟩) identifierTokens "t" = .ok resolved ∧
      ∃ value, resolved.find? ("test_prefix" ++ Token.upperCaseEnding) = some value ∧
        IsIdentifier value := by
  have hproject : ofText "library:\n  name: libexample\n  types:\n  - name: widget\n" =
      .ok ⟨[], "", "libexample", "", [⟨"widget", "value"⟩], none, []⟩ := by
    decide +kernel
  obtain ⟨resolved, hresolve, hnames⟩ :=
    identifierTokens_name_identifiers hproject (List.mem_singleton_self _) "t"
  obtain ⟨value, hvalue, hidentifier⟩ :=
    hnames "test_prefix" (by decide) _ (List.mem_cons_of_mem _ (List.mem_singleton_self _))
  refine ⟨_, resolved, hproject, hresolve, value, hvalue, hidentifier.mpr ?_⟩
  rintro (⟨-, rest, hname, hdigit⟩ | ⟨hstem, -⟩)
  · have hrest : "example" = rest := String.append_right_inj "lib" |>.mp hname
    subst hrest
    exact absurd hdigit (by decide)
  · exact absurd hstem (by decide)

/-- The tests of a library `lib7z` are given a prefix that begins with a digit, and a binding module
whose name was given as the empty text keeps it. -/
theorem identifierTokens_misname :
    (∃ project, ofText "library:\n  name: lib7z\n  types:\n  - name: t\n" = .ok project ∧
      ⟨"t", "value"⟩ ∈ project.types ∧
      (∃ resolved, Token.resolve (project.typeTokens ⟨"t", "value"⟩) ["test_prefix"] "" =
        .ok resolved ∧ resolved.find? "test_prefix" = some "7z_test_t") ∧
      ¬IsIdentifier "7z_test_t") ∧
    ∃ project,
      ofText "library:\n  name: libx\n  types:\n  - name: t\npython_module:\n  name: \"\"\n" =
        .ok project ∧
      ⟨"t", "value"⟩ ∈ project.types ∧
      (∃ resolved, Token.resolve (project.typeTokens ⟨"t", "value"⟩) ["python_module_name"] "" =
        .ok resolved ∧ resolved.find? "python_module_name" = some "") ∧
      ¬IsIdentifier "" := by
  refine ⟨⟨⟨[], "", "lib7z", "", [⟨"t", "value"⟩], none, []⟩, by decide +kernel, by decide,
      Token.exists_resolve_singleton_iff.mpr (meaning?_identifier (by decide)), ?_⟩,
    ⟨⟨[], "", "libx", "", [⟨"t", "value"⟩], some "", []⟩, by decide +kernel, by decide,
      Token.exists_resolve_singleton_iff.mpr (meaning?_identifier (by decide)),
      not_isIdentifier_empty⟩⟩
  exact fun hidentifier ↦ (isIdentifier_iff.mp hidentifier).2.2 (by decide)

end Project

end Scaffold
