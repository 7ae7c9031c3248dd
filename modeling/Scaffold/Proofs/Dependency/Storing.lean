import Scaffold.Project.Load
import Scaffold.Proofs.Text.Cutting

/-!
# Storing dependencies and reading them back

An override is stored as its text, and any text is read as an override. The two do not undo each
other on every override: the path `auto` would be read as a keyword. They do on the overrides that
were parsed, whose paths are no keywords and have no blanks at their ends (`parse_text_parse`).

A dependency is stored in any format that keeps texts and records (`Format`). Reading what was
stored gives the dependency with its override parsed once more (`ofEntries?_toEntries`), and every
dependency that is obtained by reading, or made from a name and changed (`Obtained`), has an
override that was parsed. So it is read back as it was (`stored_survives_reading`).
-/

set_option autoImplicit false

namespace Scaffold

/-! ### Texts of overrides -/

namespace Override

/-- A text stands for a keyword, or for its path without the blanks around it. -/
theorem parse_eq_path_iff {text : String} {path : Path} :
    parse text = .path path ↔
      Text.trim text ∉ ["", "auto", "auto-detect", "yes", "required", "disabled", "no"] ∧
        path.text = Text.trim text := by
  obtain ⟨place⟩ := path
  simp only [parse, List.contains_eq_mem, decide_eq_true_eq]
  constructor
  · intro h
    split at h
    · simp at h
    · split at h
      · simp at h
      · split at h
        · simp at h
        · simp_all
  · rintro ⟨hplain, rfl⟩
    simp only [List.mem_cons, List.not_mem_nil, not_or, or_false] at hplain ⊢
    simp [hplain]

/-- The text of an override that was parsed stands for that override. -/
theorem parse_text_parse (text : String) : parse (parse text).text = parse text := by
  cases hparse : parse text with
  | auto => decide
  | required => decide
  | disabled => decide
  | path path =>
    obtain ⟨hplain, hpath⟩ := parse_eq_path_iff.mp hparse
    refine parse_eq_path_iff.mpr ?_
    rw [Override.text, hpath, Text.trim_trim]
    exact ⟨hplain, rfl⟩

end Override

/-! ### Formats -/

/-- A format that keeps texts and records as stored values. A text is read back as itself, also
where it may be left out, and a record as its entries. -/
structure Format (ν : Type) [Stored ν] where
  ofText : String → ν
  ofEntries : Entries ν → ν
  text?_ofText : ∀ text, Stored.text? (ofText text) = some text
  optionalText?_ofText : ∀ text, Stored.optionalText? (ofText text) = some (some text)
  shape_ofEntries : ∀ entries, Stored.shape (ofEntries entries) = .fields entries

/-- Stored values that hold their parts are a format: texts are kept in quotes. -/
def Value.format : Format Value where
  ofText text := .scalar text .quoted
  ofEntries := .fields
  text?_ofText _ := rfl
  optionalText?_ofText _ := rfl
  shape_ofEntries _ := rfl

namespace Dependency

variable {ν : Type} [Stored ν]

/-- The entries that a dependency is stored as. -/
def toEntries (format : Format ν) (dependency : Dependency) : Entries ν :=
  dependency.toRecord.map fun (name, text) ↦ (name, format.ofText text)

/-- The stored form of a dependency. -/
def toStored (format : Format ν) (dependency : Dependency) : ν :=
  format.ofEntries (dependency.toEntries format)

/-! ### Reading what was stored -/

/-- Each field of the record holds what was set, and an optional one nothing if nothing was set. -/
theorem all_toRecord (dependency : Dependency) :
    Entries.all dependency.toRecord "name" = [dependency.name] ∧
      Entries.all dependency.toRecord "min_version" = [dependency.minVersion] ∧
      Entries.all dependency.toRecord "header" = dependency.headerName.toList ∧
      Entries.all dependency.toRecord "symbol" = dependency.symbolName.toList ∧
      Entries.all dependency.toRecord "override" = [dependency.override.text] ∧
      Entries.all dependency.toRecord "local_path" = dependency.localPath.toList := by
  obtain ⟨name, minVersion, header, symbol, override, path⟩ := dependency
  cases header <;> cases symbol <;> cases path <;> simp [toRecord, Entries.all]

theorem all_toEntries (format : Format ν) (dependency : Dependency) (name : String) :
    (dependency.toEntries format).all name =
      (Entries.all dependency.toRecord name).map format.ofText := by
  simp [toEntries, Entries.all, List.filter_map, Function.comp_def]

variable {format : Format ν} {dependency : Dependency} {name : String}

/-- A field with a text is read as that text. -/
theorem field?_toEntries {text : String} (hall : Entries.all dependency.toRecord name = [text])
    (default : Option String) :
    (dependency.toEntries format).field? name Stored.text? default = some text := by
  rw [Entries.field?, all_toEntries, hall]
  exact format.text?_ofText text

/-- A field that may be left out is read as the text it has, if it has one. -/
theorem optionalField?_toEntries {text? : Option String}
    (hall : Entries.all dependency.toRecord name = text?.toList) :
    (dependency.toEntries format).field? name Stored.optionalText? (some none) = some text? := by
  rw [Entries.field?, all_toEntries, hall]
  cases text? with
  | none => rfl
  | some text => exact format.optionalText?_ofText text

/-- What was stored is read back, with an override that was parsed once more. -/
theorem ofEntries?_toEntries (format : Format ν) (dependency : Dependency) :
    ofEntries? (dependency.toEntries format) =
      some (dependency.withOverride (Override.parse dependency.override.text)) := by
  obtain ⟨hname, hversion, hheader, hsymbol, hoverride, hpath⟩ := dependency.all_toRecord
  simp only [ofEntries?, field?_toEntries hname, field?_toEntries hversion,
    field?_toEntries hoverride, optionalField?_toEntries hheader, optionalField?_toEntries hsymbol,
    optionalField?_toEntries hpath]
  rfl

/-! ### Dependencies with a parsed override -/

/-- A dependency as it comes to be: read from what was stored, in a record or a list, or as a part
of a project, or made from a name and changed. -/
inductive Obtained : Dependency → Prop
  | read {ν : Type} [Stored ν] {value : ν} {dependency : Dependency}
      (hread : ofStored? value = some dependency) : Obtained dependency
  | readInProject {ν : Type} [Stored ν] {value : ν} {dependency : Dependency}
      (hread : Project.readDependency? value = some dependency) : Obtained dependency
  | new (name minVersion : String) : Obtained (.new name minVersion)
  | withOverride {dependency : Dependency} (text : String) (hobtained : Obtained dependency) :
      Obtained (dependency.withOverride (Override.parse text))
  | withLocalPath {dependency : Dependency} (path : String) (hobtained : Obtained dependency) :
      Obtained (dependency.withLocalPath path)

/-- The override of a dependency that is read was parsed. -/
theorem exists_parse_of_ofEntries? {entries : Entries ν}
    (hread : ofEntries? entries = some dependency) :
    ∃ text, dependency.override = Override.parse text := by
  simp only [ofEntries?, Option.bind_eq_bind, Option.bind_eq_some_iff] at hread
  obtain ⟨_, _, _, _, _, _, _, _, text, _, _, _, heq⟩ := hread
  exact ⟨text, by rw [← Option.some.inj heq]⟩

/-- A dependency that is read is read from entries, those of a record or those of a list. -/
theorem exists_entries_of_ofStored? {value : ν} (hread : ofStored? value = some dependency) :
    ∃ entries : Entries ν, ofEntries? entries = some dependency := by
  rw [ofStored?] at hread
  split at hread
  · exact ⟨_, hread⟩
  · split at hread
    · exact ⟨_, hread⟩
    · simp at hread
  · simp at hread

/-- However a dependency was obtained, its override was parsed: reading and setting it do that, and
the other change keeps it. -/
theorem Obtained.exists_parse (hobtained : Obtained dependency) :
    ∃ text, dependency.override = Override.parse text := by
  induction hobtained with
  | read hread =>
    obtain ⟨entries, hentries⟩ := exists_entries_of_ofStored? hread
    exact exists_parse_of_ofEntries? hentries
  | readInProject hread =>
    obtain ⟨entries, -, hentries⟩ := Option.bind_eq_some_iff.mp hread
    exact exists_parse_of_ofEntries? hentries
  | new name minVersion => exact ⟨"", rfl⟩
  | withOverride text _ _ => exact ⟨text, by rw [Dependency.withOverride]⟩
  | withLocalPath path _ ih => exact ih

/-- The text of a parsed override stands for the same override, with the path as it was. So the
override of a dependency that is obtained in any way stays the same when it is parsed once more, and
the dependency is read back as it was stored, whatever the format. -/
theorem stored_survives_reading :
    (∀ text, Override.parse (Override.parse text).text = Override.parse text) ∧
    ∀ dependency, Obtained dependency →
      Override.parse dependency.override.text = dependency.override ∧
      ∀ {ν : Type} [Stored ν] (format : Format ν),
        ofStored? (dependency.toStored format) = some dependency ∧
        Project.readDependency? (dependency.toStored format) = some dependency := by
  refine ⟨Override.parse_text_parse, fun dependency hobtained ↦ ?_⟩
  obtain ⟨text, hparsed⟩ := hobtained.exists_parse
  have hoverride : Override.parse dependency.override.text = dependency.override := by
    rw [hparsed, Override.parse_text_parse]
  refine ⟨hoverride, fun {ν} _ format ↦ ?_⟩
  have hread : ofEntries? (dependency.toEntries format) = some dependency := by
    rw [ofEntries?_toEntries, hoverride]
    rfl
  have hshape : Stored.shape (dependency.toStored format) = .fields (dependency.toEntries format) :=
    format.shape_ofEntries _
  constructor
  · rw [ofStored?, hshape]
    exact hread
  · rw [Project.readDependency?, Stored.entries?, hshape]
    exact hread

/-- An override with a blank inside it, next to a keyword, and a path for the bundled copy that is
there but empty. -/
theorem stored_survives_reading_of_auto_detect :
    let dependency :=
      ((Dependency.new "libfoo" "").withOverride (Override.parse " auto detect\t")).withLocalPath ""
    Obtained dependency ∧
      dependency.toStored Value.format = .fields [("name", .scalar "libfoo" .quoted),
        ("min_version", .scalar "" .quoted), ("override", .scalar "auto detect" .quoted),
        ("local_path", .scalar "" .quoted)] ∧
      Override.parse "auto detect" = .path ⟨"auto detect"⟩ ∧
      ofStored? (dependency.toStored Value.format) = some dependency := by
  intro dependency
  have hobtained : Obtained dependency := .withLocalPath "" (.withOverride _ (.new "libfoo" ""))
  have hoverride : dependency.override = .path ⟨"auto detect"⟩ := by decide +kernel
  obtain ⟨htext, hstored⟩ := stored_survives_reading.2 dependency hobtained
  rw [hoverride, Override.text] at htext
  refine ⟨hobtained, ?_, htext, (hstored Value.format).1⟩
  rw [toStored, toEntries, toRecord, hoverride]
  rfl

end Dependency

end Scaffold
