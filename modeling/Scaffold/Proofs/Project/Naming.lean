import Mathlib.Data.List.TakeWhile
import Scaffold.Proofs.Project.Validation

/-!
# The names of a valid project

An identifier is a letter or an underscore, and then letters, digits and underscores
(`IsIdentifier`). The check of a name lets identifiers through, and the empty text besides
(`isIdentifierText_iff`). The names of the library and of its types are also tested for being more
than blanks, and no identifier fails this test (`isNameless_of_isIdentifier`), so these two have to
be identifiers. The name of the binding module, the value names and the names of dependencies are
not: validation accepts the empty text for them (`validate_accepts_names`).
-/

set_option autoImplicit false

namespace Scaffold

/-- A character that an identifier may begin with. -/
def IsIdentifierStart (c : Char) : Prop :=
  ('A' ≤ c ∧ c ≤ 'Z') ∨ ('a' ≤ c ∧ c ≤ 'z') ∨ c = '_'

/-- A character that an identifier may go on with. -/
def IsIdentifierPart (c : Char) : Prop :=
  IsIdentifierStart c ∨ ('0' ≤ c ∧ c ≤ '9')

/-- The text is a letter or an underscore, and then letters, digits and underscores. -/
def IsIdentifier (text : String) : Prop :=
  ∃ first rest, text.toList = first :: rest ∧ IsIdentifierStart first ∧
    ∀ c ∈ rest, IsIdentifierPart c

/-! ### Characters -/

theorem isDigit_iff (c : Char) : c.isDigit = true ↔ '0' ≤ c ∧ c ≤ '9' := by
  change (decide (c.val ≥ '0'.val) && decide (c.val ≤ '9'.val)) = true ↔ _
  rw [Bool.and_eq_true, decide_eq_true_eq, decide_eq_true_eq]
  rfl

/-- The check of a name takes the characters of identifiers. -/
theorem isAlphanum_or_underscore_iff (c : Char) :
    (c.isAlphanum || c == '_') = true ↔ IsIdentifierPart c := by
  change (decide (c.val ≥ 'A'.val ∧ c.val ≤ 'Z'.val) ||
    (decide (c.val ≥ 'a'.val) && decide (c.val ≤ 'z'.val)) || c.isDigit || c == '_') = true ↔ _
  simp only [Bool.or_eq_true, Bool.and_eq_true, decide_eq_true_eq, beq_iff_eq, isDigit_iff,
    IsIdentifierPart, IsIdentifierStart]
  tauto

/-- What an identifier begins with may stand further on as well, and is no digit. -/
theorem isIdentifierStart_iff (c : Char) :
    IsIdentifierStart c ↔ IsIdentifierPart c ∧ c.isDigit = false := by
  rw [Bool.eq_false_iff, Ne, isDigit_iff, IsIdentifierPart]
  constructor
  · intro hstart
    refine ⟨.inl hstart, fun hdigit ↦ ?_⟩
    rcases hstart with hcapital | hsmall | rfl
    · exact absurd (Char.le_trans hcapital.1 hdigit.2) (by decide)
    · exact absurd (Char.le_trans hsmall.1 hdigit.2) (by decide)
    · exact absurd hdigit.2 (by decide)
  · rintro ⟨hstart | hdigit, hother⟩
    · exact hstart
    · exact absurd hdigit hother

/-- No identifier begins with a blank. -/
theorem isBlank_of_isIdentifierStart {c : Char} (hstart : IsIdentifierStart c) :
    Text.isBlank c = false := by
  have hbounds : 65 ≤ c.toNat ∧ c.toNat ≤ 122 := by
    rcases hstart with hcapital | hsmall | rfl
    · exact ⟨hcapital.1, Char.le_trans hcapital.2 (by decide : 'Z' ≤ 'z')⟩
    · exact ⟨Char.le_trans (by decide : 'A' ≤ 'a') hsmall.1, hsmall.2⟩
    · decide
  have hcodes : ∀ code ∈ Text.blankCodes, code < 65 ∨ 122 < code := by decide
  rw [Text.isBlank, List.contains_eq_mem, decide_eq_false_iff_not]
  intro hblank
  have houtside := hcodes c.toNat hblank
  omega

namespace Project

/-! ### Checks of a name -/

/-- The check of a name lets identifiers through, and the empty text. -/
theorem isIdentifierText_iff {text : String} :
    isIdentifierText text = true ↔ text = "" ∨ IsIdentifier text := by
  rw [isIdentifierText, Bool.and_eq_true, List.all_eq_true, ← String.toList_eq_nil_iff,
    IsIdentifier]
  cases text.toList with
  | nil => simp
  | cons first rest =>
    simp only [isAlphanum_or_underscore_iff, List.forall_mem_cons, List.head?_cons, Option.any_some,
      Bool.not_eq_true', reduceCtorEq, false_or, List.cons.injEq, isIdentifierStart_iff]
    constructor
    · rintro ⟨⟨hfirst, hrest⟩, hdigit⟩
      exact ⟨first, rest, ⟨rfl, rfl⟩, ⟨hfirst, hdigit⟩, hrest⟩
    · rintro ⟨_, _, ⟨rfl, rfl⟩, ⟨hfirst, hdigit⟩, hrest⟩
      exact ⟨⟨hfirst, hrest⟩, hdigit⟩

/-- An identifier is more than blanks. -/
theorem isNameless_of_isIdentifier {name : String} (hname : IsIdentifier name) :
    isNameless name = false := by
  obtain ⟨first, rest, hchars, hstart, -⟩ := hname
  have hblank := isBlank_of_isIdentifierStart hstart
  have hkept : Text.trimChars name.toList ≠ [] := by
    rw [Text.trimChars, hchars, List.dropWhile_cons_of_neg (by simp [hblank])]
    simp only [ne_eq, List.reverse_eq_nil_iff, List.dropWhile_eq_nil_iff, List.mem_reverse]
    intro hblanks
    exact Bool.false_ne_true (hblank.symm.trans (hblanks first List.mem_cons_self))
  rw [isNameless, Text.trim, Bool.eq_false_iff, Ne, String.isEmpty_iff]
  rwa [← String.toList_eq_nil_iff, String.toList_ofList]

/-- A name that is also tested for being more than blanks is an identifier. -/
theorem named_and_isIdentifierText_iff {name : String} :
    isNameless name = false ∧ isIdentifierText name = true ↔ IsIdentifier name := by
  rw [isIdentifierText_iff]
  constructor
  · rintro ⟨hnamed, rfl | hname⟩
    · exact absurd rfl (ne_empty_of_isNameless hnamed)
    · exact hname
  · exact fun hname ↦ ⟨isNameless_of_isIdentifier hname, .inr hname⟩

/-! ### All names of a project -/

/-- The library and its types are named by identifiers, the other names of the project satisfy
`IsName`, and no two types and no two dependencies have the same name. -/
@[mk_iff]
structure IsNamed (project : Project) (IsName : String → Prop) : Prop where
  library : IsIdentifier project.libraryName
  module : ∀ name, project.moduleName = some name → IsName name
  types : ∀ type ∈ project.types, IsIdentifier type.name ∧ IsName type.valueName
  typesDistinct : (project.types.map (·.name)).Nodup
  dependencies : ∀ dependency ∈ project.dependencies, IsName dependency.name
  dependenciesDistinct : (project.dependencies.map (·.name)).Nodup

/-- The names of the project but those of the library and its types. -/
def otherNames (project : Project) : List String :=
  project.moduleName.toList ++ project.types.map (·.valueName) ++
    project.dependencies.map (·.name)

/-- Only the names that are not tested for it may be empty in a valid project. -/
theorem isValid_iff_isNamed {project : Project} :
    project.IsValid ↔ project.IsNamed fun name ↦ name = "" ∨ IsIdentifier name := by
  have htypes : ∀ type : TypeEntry, type.IsValid ↔
      IsIdentifier type.name ∧ (type.valueName = "" ∨ IsIdentifier type.valueName) := by
    intro type
    rw [TypeEntry.isValid_iff, ← named_and_isIdentifierText_iff, isIdentifierText_iff,
      isIdentifierText_iff, and_assoc]
  rw [isValid_iff, isNamed_iff, ← and_assoc, named_and_isIdentifierText_iff]
  simp only [htypes, isIdentifierText_iff]

/-- What is asked of the other names may be weakened name by name. -/
theorem IsNamed.mono {project : Project} {IsName IsOther : String → Prop}
    (hnamed : project.IsNamed IsName)
    (hmono : ∀ name ∈ project.otherNames, IsName name → IsOther name) :
    project.IsNamed IsOther where
  library := hnamed.library
  module name hname := hmono name (by simp [otherNames, hname]) (hnamed.module name hname)
  types type htype := by
    obtain ⟨hname, hvalue⟩ := hnamed.types type htype
    refine ⟨hname, hmono _ ?_ hvalue⟩
    exact List.mem_append_left _ (List.mem_append_right _ (List.mem_map_of_mem htype))
  typesDistinct := hnamed.typesDistinct
  dependencies dependency hdependency :=
    hmono _ (List.mem_append_right _ (List.mem_map_of_mem hdependency))
      (hnamed.dependencies dependency hdependency)
  dependenciesDistinct := hnamed.dependenciesDistinct

/-- Validation accepts a project exactly if its library and its types are named by identifiers, its
other names are identifiers or empty, and no two types and no two dependencies have the same name.
So unless one of the other names is empty, all names of an accepted project are identifiers, and no
project with such names is refused. -/
theorem validate_accepts_names (project : Project) :
    (project.validate = .ok () ↔ project.IsNamed fun name ↦ name = "" ∨ IsIdentifier name) ∧
      (project.IsNamed IsIdentifier → project.validate = .ok ()) ∧
      ("" ∉ project.otherNames → project.validate = .ok () → project.IsNamed IsIdentifier) := by
  rw [validate_eq_ok_iff, isValid_iff_isNamed]
  refine ⟨Iff.rfl, fun hnamed ↦ ?_, fun hfull hnamed ↦ ?_⟩
  · exact hnamed.mono fun _ _ hname ↦ .inr hname
  · refine hnamed.mono fun name hname hchecked ↦ ?_
    rcases hchecked with rfl | hidentifier
    · exact absurd hname hfull
    · exact hidentifier

theorem not_isIdentifier_empty : ¬IsIdentifier "" := by
  rintro ⟨first, rest, hchars, -⟩
  cases hchars

/-- The empty text is accepted as the name of the binding module, as a value name and as the name of
a dependency. -/
theorem validate_accepts_empty_names :
    (∃ project, ofText "library:\n  name: libx\npython_module:\n  name: \"\"\n" = .ok project ∧
      project.validate = .ok () ∧ ¬project.IsNamed IsIdentifier) ∧
    (∃ project, ofText "library:\n  name: libx\n  types:\n  - name: t\n    value_name: \"\"\n" =
        .ok project ∧
      project.validate = .ok () ∧ ¬project.IsNamed IsIdentifier) ∧
    ∃ project, ofText "library:\n  name: libx\ndependencies:\n- name: \"\"\n  min_version: 1\n" =
        .ok project ∧
      project.validate = .ok () ∧ ¬project.IsNamed IsIdentifier := by
  refine ⟨⟨⟨[], "", "libx", "", [], some "", []⟩, by decide +kernel, by decide +kernel,
      fun hnamed ↦ not_isIdentifier_empty (hnamed.module "" rfl)⟩,
    ⟨⟨[], "", "libx", "", [⟨"t", ""⟩], none, []⟩, by decide +kernel, by decide +kernel,
      fun hnamed ↦ not_isIdentifier_empty (hnamed.types _ (List.mem_singleton_self _)).2⟩,
    ⟨⟨[], "", "libx", "", [], none, [.new "" "1"]⟩, by decide +kernel, by decide +kernel,
      fun hnamed ↦ not_isIdentifier_empty (hnamed.dependencies _ (List.mem_singleton_self _))⟩⟩

end Project

end Scaffold
