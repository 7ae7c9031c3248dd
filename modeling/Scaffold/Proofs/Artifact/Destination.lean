import Scaffold.Artifact.Kind
import Scaffold.Proofs.Path
import Scaffold.Proofs.Template.Printing
import Scaffold.Proofs.Template.Rendering

/-!
# Destinations

The pattern of a destination is printed from a normal list of segments, so it is read back as that
list whatever the file name of the template holds (`normal_destinationSegments`). A destination is
therefore the text of these segments, or an error for a token without a value (`destination_eq`):
no pattern is malformed. The text is a folder, a slash and a file name (`join_destinationSegments`),
and a slash comes into either of them only with the value of a token (`not_mem_fileName`).

Put together this is the closed form of a destination (`destination_eq_join`,
`destination_has_closed_form`): nothing that the name of a template holds is read as a part of the
pattern.
-/

set_option autoImplicit false

namespace Scaffold.ArtifactKind

theorem normal_destinationSegments (kind : ArtifactKind) (template : String) :
    Segment.Normal (kind.destinationSegments template) := by
  have hlibrary : Segment.isTokenName "library_name".toList = true := by decide
  have hmodule : Segment.isTokenName "python_module_name".toList = true := by decide
  have hsuffix : Segment.isTokenName "library_name_suffix".toList = true := by decide
  have htype : Segment.isTokenName "type_name".toList = true := by decide
  have hid : Segment.isTokenName "library_id".toList = true := by decide
  have hfile : ∀ file : String, "_" ++ file ≠ "" := by simp
  have hsource : ".c" ≠ "" := by decide
  have hmacro : ".m4" ≠ "" := by decide
  cases kind with
  | librarySource => exact ⟨hlibrary, by decide, hlibrary, hfile _⟩
  | headerStub => exact ⟨hmodule, by decide, hmodule, hfile _⟩
  | testSource => exact ⟨by decide, hsuffix, by decide, htype, hsource⟩
  | buildMacro => exact ⟨by decide, hid, hmacro⟩

/-- The placeholders of a destination, in text order. -/
def destinationPlaceholders (kind : ArtifactKind) (template : String) : List String :=
  (kind.destinationSegments template).filterMap Segment.token?

/-- A destination is the text of its segments, unless one of their tokens has no value. -/
theorem destination_eq (kind : ArtifactKind) (template : String) (table : TokenTable) :
    kind.destination template table =
      match Template.firstAbsent? table (kind.destinationPlaceholders template) with
      | some token => .error (.unresolvedToken token template)
      | none =>
        .ok ⟨String.join ((kind.destinationSegments template).map (Template.textOf table))⟩ := by
  have hread := Template.parse_print template (normal_destinationSegments kind template)
  have hrender : Template.renderBody template (Segment.print (kind.destinationSegments template))
      table = Template.render ⟨template, kind.destinationSegments template⟩ table := by
    rw [Template.renderBody, hread]
    rfl
  rw [destination, hrender, Template.render, Template.renderSegments_eq, destinationPlaceholders]
  cases Template.firstAbsent? table _ <;> rfl

/-! ### Folder and file -/

variable {kind : ArtifactKind} {value : String → String} {template : String}

/-- The folder that artifacts of a kind go to, given the values of tokens. -/
def folder (value : String → String) : ArtifactKind → String
  | librarySource => value "library_name"
  | headerStub => value "python_module_name"
  | testSource => "tests"
  | buildMacro => "m4"

/-- The file name of an artifact, given the values of tokens. -/
def fileName (value : String → String) (template : String) : ArtifactKind → String
  | librarySource =>
    value "library_name" ++ "_" ++ Text.dropStem "libyal_" (Text.afterLast '/' template)
  | headerStub =>
    value "python_module_name" ++ "_" ++ Text.dropStem "pyyal_" (Text.afterLast '/' template)
  | testSource => value "library_name_suffix" ++ "_test_" ++ value "type_name" ++ ".c"
  | buildMacro => value "library_id" ++ ".m4"

/-- The text of a destination is its folder, a slash and its file name. -/
theorem join_destinationSegments (kind : ArtifactKind) (template : String) (table : TokenTable) :
    String.join ((kind.destinationSegments template).map (Template.textOf table)) =
      kind.folder (fun token ↦ (table.find? token).getD "") ++ "/" ++
        kind.fileName (fun token ↦ (table.find? token).getD "") template := by
  cases kind <;>
    simp [destinationSegments, Template.textOf, folder, fileName, String.join, String.append_assoc]

/-- A file name holds a character besides dots and slashes. -/
theorem exists_mem_fileName (kind : ArtifactKind) (value : String → String) (template : String) :
    ∃ c ∈ (kind.fileName value template).toList, c ≠ '.' := by
  cases kind with
  | librarySource => exact ⟨'_', by simp [fileName], by decide⟩
  | headerStub => exact ⟨'_', by simp [fileName], by decide⟩
  | testSource => exact ⟨'c', by simp [fileName], by decide⟩
  | buildMacro => exact ⟨'m', by simp [fileName], by decide⟩

/-- A slash comes into a file name only with the value of a token. -/
theorem not_mem_fileName
    (hvalue : ∀ token ∈ kind.destinationTokens, '/' ∉ (value token).toList) :
    '/' ∉ (kind.fileName value template).toList := by
  have hfile : ∀ stem, '/' ∉ (Text.dropStem stem (Text.afterLast '/' template)).toList :=
    fun stem hmem ↦ Text.not_mem_afterLast '/' template (Text.mem_of_mem_dropStem hmem)
  cases kind <;> simp_all [fileName, destinationTokens]

/-- Without a slash in the values of its tokens, the file name of an artifact is a single step. -/
theorem isName_fileName (template : String)
    (hvalue : ∀ token ∈ kind.destinationTokens, '/' ∉ (value token).toList) :
    Component.IsName (kind.fileName value template) := by
  obtain ⟨c, hc, hdot⟩ := exists_mem_fileName kind value template
  exact Component.isName_of_mem hc hdot (not_mem_fileName hvalue)

/-! ### The closed form -/

/-- A token that a destination refers to twice is absent at its first place already. -/
theorem firstAbsent?_destinationPlaceholders (kind : ArtifactKind) (template : String)
    (table : TokenTable) :
    Template.firstAbsent? table (kind.destinationPlaceholders template) =
      Template.firstAbsent? table kind.destinationTokens := by
  have htwice : ∀ token,
      Template.firstAbsent? table [token, token] = Template.firstAbsent? table [token] := by
    intro token
    by_cases habsent : (table.find? token).isNone = true <;>
      simp [Template.firstAbsent?, habsent]
  cases kind with
  | librarySource => exact htwice "library_name"
  | headerStub => exact htwice "python_module_name"
  | testSource => rfl
  | buildMacro => rfl

/-- A destination is a folder, a slash and a file name made from the values of its tokens, unless
one of them has no value. -/
theorem destination_eq_join (kind : ArtifactKind) (template : String) (table : TokenTable) :
    kind.destination template table =
      match Template.firstAbsent? table kind.destinationTokens with
      | some token => .error (.unresolvedToken token template)
      | none =>
        .ok ⟨kind.folder (fun token ↦ (table.find? token).getD "") ++ "/" ++
          kind.fileName (fun token ↦ (table.find? token).getD "") template⟩ := by
  rw [destination_eq, firstAbsent?_destinationPlaceholders, join_destinationSegments]

/-- With a value for each of its tokens a destination is a path. -/
theorem exists_destination {table : TokenTable} (template : String)
    (htokens : ∀ token ∈ kind.destinationTokens, ∃ value, table.find? token = some value) :
    ∃ path, kind.destination template table = .ok path := by
  rw [destination_eq_join, Template.firstAbsent?_eq_none_iff.mpr htokens]
  exact ⟨_, rfl⟩

/-- The error of a destination names the first of its tokens without a value. -/
theorem destination_eq_error_iff {table : TokenTable} {fault : Fault} :
    kind.destination template table = .error fault ↔
      ∃ before token after, kind.destinationTokens = before ++ token :: after ∧
        (∀ known ∈ before, table.contains known = true) ∧ table.contains token = false ∧
        fault = .unresolvedToken token template := by
  have hfirst : kind.destination template table = .error fault ↔
      ∃ token, Template.firstAbsent? table kind.destinationTokens = some token ∧
        fault = .unresolvedToken token template := by
    rw [destination_eq_join]
    cases Template.firstAbsent? table kind.destinationTokens <;> simp [eq_comm]
  simp only [hfirst, Template.firstAbsent?, List.find?_eq_some_iff_append, Table.contains]
  constructor
  · rintro ⟨token, ⟨habsent, before, after, htokens, hbefore⟩, hfault⟩
    exact ⟨before, token, after, htokens, by simpa using hbefore, by simpa using habsent, hfault⟩
  · rintro ⟨before, token, after, htokens, hbefore, habsent, hfault⟩
    exact ⟨token, ⟨by simpa using habsent, before, after, htokens, by simpa using hbefore⟩, hfault⟩

/-- The only error of a destination is that a token has no value. -/
theorem destination_eq_error {table : TokenTable} {fault : Fault}
    (hfault : kind.destination template table = .error fault) :
    ∃ token, fault = .unresolvedToken token template := by
  obtain ⟨_, token, _, _, _, _, hunresolved⟩ := destination_eq_error_iff.mp hfault
  exact ⟨token, hunresolved⟩

/-- The destination of every kind, for a template of any name and whatever tokens there are. The
name comes in by what stands behind its last slash, without the stem of the kind, and values come in
as they are. The only error is that a token of the destination has no value: it names the first of
them, and the template. -/
theorem destination_has_closed_form (template : String) (table : TokenTable) :
    ∃ file, Text.IsAfterLast '/' template file ∧
      (∃ rest, Text.IsWithoutStem "libyal_" file rest ∧
        librarySource.destination template table =
          match table.find? "library_name" with
          | some name => .ok ⟨name ++ "/" ++ name ++ "_" ++ rest⟩
          | none => .error (.unresolvedToken "library_name" template)) ∧
      (∃ rest, Text.IsWithoutStem "pyyal_" file rest ∧
        headerStub.destination template table =
          match table.find? "python_module_name" with
          | some name => .ok ⟨name ++ "/" ++ name ++ "_" ++ rest⟩
          | none => .error (.unresolvedToken "python_module_name" template)) ∧
      testSource.destination template table =
        (match table.find? "library_name_suffix", table.find? "type_name" with
        | some suffix, some type => .ok ⟨"tests/" ++ suffix ++ "_test_" ++ type ++ ".c"⟩
        | some _, none => .error (.unresolvedToken "type_name" template)
        | none, _ => .error (.unresolvedToken "library_name_suffix" template)) ∧
      buildMacro.destination template table =
        (match table.find? "library_id" with
        | some id => .ok ⟨"m4/" ++ id ++ ".m4"⟩
        | none => .error (.unresolvedToken "library_id" template)) ∧
      ∀ (kind : ArtifactKind) (fault : Fault),
        kind.destination template table = .error fault ↔
          ∃ before token after, kind.destinationTokens = before ++ token :: after ∧
            (∀ known ∈ before, table.contains known = true) ∧ table.contains token = false ∧
            fault = .unresolvedToken token template := by
  refine ⟨_, Text.isAfterLast_afterLast '/' template, ⟨_, Text.isWithoutStem_dropStem _ _, ?_⟩,
    ⟨_, Text.isWithoutStem_dropStem _ _, ?_⟩, ?_, ?_, fun kind fault ↦ destination_eq_error_iff⟩
  · rw [destination_eq_join]
    cases hname : table.find? "library_name" <;>
      simp [Template.firstAbsent?, destinationTokens, folder, fileName, hname, String.append_assoc]
  · rw [destination_eq_join]
    cases hname : table.find? "python_module_name" <;>
      simp [Template.firstAbsent?, destinationTokens, folder, fileName, hname, String.append_assoc]
  · rw [destination_eq_join]
    cases hsuffix : table.find? "library_name_suffix" <;> cases htype : table.find? "type_name" <;>
      simp [Template.firstAbsent?, destinationTokens, folder, fileName, hsuffix, htype,
        String.append_assoc]
  · rw [destination_eq_join]
    cases hid : table.find? "library_id" <;>
      simp [Template.firstAbsent?, destinationTokens, folder, fileName, hid, String.append_assoc]

/-- What looks like a placeholder in the name of a template stays as it is. -/
example : librarySource.destination "libyal/libyal_$\x7btype\x7d$.c"
    (Table.ofList [("library_name", "libfoo"), ("type", "x")]) =
      .ok ⟨"libfoo/libfoo_$\x7btype\x7d$.c"⟩ := by
  decide +kernel

end Scaffold.ArtifactKind
