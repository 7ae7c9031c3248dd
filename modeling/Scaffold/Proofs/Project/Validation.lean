import Mathlib.Data.List.Nodup
import Mathlib.Tactic.MkIffOfInductiveProp
import Scaffold.Project.Override
import Scaffold.Project.Load
import Scaffold.Proofs.Fault

/-!
# What validation accepts

`Project.IsValid` says of a project that validation finds no fault in it (`validate_eq_ok_iff`): the
library and the types have names, every name is the text of an identifier, and neither a type nor a
dependency is listed twice. A project that is read from a text is valid (`isValid_of_ofText`), and
stays so whatever overrides are applied to it, since they change no name
(`isValid_applyOverrides`).

The text of an identifier holds neither slash nor dot (`not_mem_of_isIdentifierText`), but it may be
empty, and of the names of a project only those of the library and its types are refused then.
-/

set_option autoImplicit false

namespace Scaffold

open Project (isIdentifierText isNameless)

/-- The type has a name, and its names are texts of identifiers. -/
@[mk_iff]
structure TypeEntry.IsValid (type : TypeEntry) : Prop where
  named : isNameless type.name = false
  name : isIdentifierText type.name = true
  valueName : isIdentifierText type.valueName = true

namespace Project

/-- The project has no fault that validation could report. -/
@[mk_iff]
structure IsValid (project : Project) : Prop where
  named : isNameless project.libraryName = false
  libraryName : isIdentifierText project.libraryName = true
  moduleName : ∀ name, project.moduleName = some name → isIdentifierText name = true
  types : ∀ type ∈ project.types, type.IsValid
  typesDistinct : (project.types.map (·.name)).Nodup
  dependencies : ∀ dependency ∈ project.dependencies, isIdentifierText dependency.name = true
  dependenciesDistinct : (project.dependencies.map (·.name)).Nodup

/-! ### Reading the checks -/

theorem checkName_eq_ok_iff {role : NameRole} {name : String} {value : Unit} :
    checkName role name = .ok value ↔ isIdentifierText name = true := by
  rw [checkName]
  split <;> simp_all

/-- The names are all different, and different from those seen before. -/
def AreFresh (seen names : List String) : Prop :=
  names.Nodup ∧ ∀ name ∈ names, name ∉ seen

theorem areFresh_cons {seen rest : List String} {name : String} :
    AreFresh seen (name :: rest) ↔ name ∉ seen ∧ AreFresh (name :: seen) rest := by
  simp only [AreFresh, List.nodup_cons, List.mem_cons, not_or]
  grind

theorem areFresh_nil_iff {names : List String} : AreFresh [] names ↔ names.Nodup := by
  simp [AreFresh]

theorem checkTypes_eq_ok_iff {seen : List String} {types : List TypeEntry} {value : Unit} :
    checkTypes seen types = .ok value ↔
      (∀ type ∈ types, type.IsValid) ∧ AreFresh seen (types.map (·.name)) := by
  induction types generalizing seen with
  | nil => simp [checkTypes, AreFresh]
  | cons type rest ih =>
    simp only [checkTypes, unless_throw_eq_ok_iff, bind_eq_ok_iff, checkName_eq_ok_iff, ih,
      List.map_cons, List.forall_mem_cons, areFresh_cons, TypeEntry.isValid_iff]
    simp [and_assoc, and_left_comm]

theorem checkDependencies_eq_ok_iff {seen : List String} {dependencies : List Dependency}
    {value : Unit} :
    checkDependencies seen dependencies = .ok value ↔
      (∀ dependency ∈ dependencies, isIdentifierText dependency.name = true) ∧
        AreFresh seen (dependencies.map (·.name)) := by
  induction dependencies generalizing seen with
  | nil => simp [checkDependencies, AreFresh]
  | cons dependency rest ih =>
    simp only [checkDependencies, unless_throw_eq_ok_iff, bind_eq_ok_iff, checkName_eq_ok_iff, ih,
      List.map_cons, List.forall_mem_cons, areFresh_cons]
    simp [and_assoc, and_left_comm]

/-- Validation finds no fault exactly in valid projects. -/
theorem validate_eq_ok_iff {project : Project} : project.validate = .ok () ↔ project.IsValid := by
  simp only [validate, unless_throw_eq_ok_iff, bind_eq_ok_iff, checkName_eq_ok_iff, isValid_iff]
  cases project.moduleName <;>
    simp [bind_eq_ok_iff, checkName_eq_ok_iff, checkTypes_eq_ok_iff, checkDependencies_eq_ok_iff,
      areFresh_nil_iff, and_assoc]

/-- What is read from a text is valid. -/
theorem isValid_of_ofText {text : String} {project : Project} (htext : ofText text = .ok project) :
    project.IsValid := by
  rw [ofText] at htext
  cases hread : (Yaml.Document.ofText? text).bind ofDocument? with
  | none => simp [hread, throw, throwThe, MonadExceptOf.throw] at htext
  | some read =>
    simp only [hread, bind_eq_ok_iff] at htext
    obtain ⟨_, hvalid, hread⟩ := htext
    obtain rfl : read = project := by simpa [pure, Except.pure] using hread
    exact validate_eq_ok_iff.mp hvalid

/-! ### Overriding -/

/-- An override changes how a dependency is looked for and nothing else. -/
theorem map_withOverride_of_retarget? {named : NamedOverride}
    {dependencies changed : List Dependency}
    (hchanged : named.retarget? dependencies = some changed) :
    changed.map (·.withOverride .auto) = dependencies.map (·.withOverride .auto) := by
  induction dependencies generalizing changed with
  | nil => simp [NamedOverride.retarget?] at hchanged
  | cons dependency rest ih =>
    rw [NamedOverride.retarget?] at hchanged
    split at hchanged
    · obtain rfl := Option.some.inj hchanged
      rfl
    · obtain ⟨later, hlater, rfl⟩ := Option.map_eq_some_iff.mp hchanged
      rw [List.map_cons, List.map_cons, ih hlater]

/-- The project with its dependencies looked for in the default way. -/
def withoutOverrides (project : Project) : Project :=
  { project with dependencies := project.dependencies.map (·.withOverride .auto) }

/-- Overrides change how dependencies are looked for and nothing else. -/
theorem withoutOverrides_applyOverrides (project : Project) (overrides : List NamedOverride) :
    (project.applyOverrides overrides).1.withoutOverrides = project.withoutOverrides := by
  induction overrides generalizing project with
  | nil => rfl
  | cons named rest ih =>
    rw [applyOverrides]
    cases hchanged : named.retarget? project.dependencies with
    | none => rfl
    | some changed =>
      rw [ih, withoutOverrides, map_withOverride_of_retarget? hchanged]
      rfl

/-- How dependencies are looked for plays no part in validity. -/
theorem isValid_withoutOverrides_iff {project : Project} :
    project.withoutOverrides.IsValid ↔ project.IsValid := by
  simp [isValid_iff, withoutOverrides, Dependency.withOverride, Function.comp_def]

/-- A valid project stays valid whatever overrides are applied to it. -/
theorem isValid_applyOverrides {project : Project} (hvalid : project.IsValid)
    (overrides : List NamedOverride) : (project.applyOverrides overrides).1.IsValid := by
  rw [← isValid_withoutOverrides_iff, withoutOverrides_applyOverrides]
  exact isValid_withoutOverrides_iff.mpr hvalid

theorem moduleName_applyOverrides (project : Project) (overrides : List NamedOverride) :
    (project.applyOverrides overrides).1.moduleName = project.moduleName := by
  have hsame := congrArg moduleName (withoutOverrides_applyOverrides project overrides)
  exact hsame

/-! ### Texts of identifiers -/

/-- The text of an identifier holds letters, digits and underscores alone. -/
theorem not_mem_of_isIdentifierText {text : String} {c : Char}
    (htext : isIdentifierText text = true) (hc : (c.isAlphanum || c == '_') = false) :
    c ∉ text.toList := by
  rw [isIdentifierText, Bool.and_eq_true, List.all_eq_true] at htext
  intro hmem
  exact Bool.false_ne_true (hc.symm.trans (htext.1 c hmem))

/-- A name that is more than blanks is not empty. -/
theorem ne_empty_of_isNameless {name : String} (hnamed : isNameless name = false) : name ≠ "" := by
  rintro rfl
  exact Bool.false_ne_true (hnamed.symm.trans (by decide))

end Project

end Scaffold
