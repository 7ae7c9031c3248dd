import Mathlib.Data.List.Nodup
import Scaffold.Proofs.Text.Cutting
import Scaffold.Template.Directory

/-!
# Loading a corpus from disk

The files below a directory are listed once each, in the order of their locations
(`mem_filesBelow_iff`, `pairwise_filesBelow`), so what they are decides in which order they come.
Reading them passes over hidden ones and stops at the first that is no text (`readEntries_eq`). The
corpus that is put together of them holds what can be parsed, unless there is an error
(`ofEntries_eq`), and what lies outside the artifact directories has no part in it
(`ofEntries_filter`).

But reading comes first. So a file outside these directories is ignored if it is hidden or a text,
and one that is neither, a stray, keeps the corpus from being loaded (`ofDirectory_ignores_others`).
-/

set_option autoImplicit false

namespace Scaffold

theorem nodup_eraseDups {α : Type} [BEq α] [LawfulBEq α] (values : List α) :
    values.eraseDups.Nodup := by
  match values with
  | [] => exact List.nodup_nil
  | value :: rest =>
    have hshorter : (rest.filter fun other ↦ !other == value).length ≤ rest.length :=
      List.length_filter_le _ _
    rw [List.eraseDups_cons, List.nodup_cons]
    exact ⟨by simp [List.mem_eraseDups], nodup_eraseDups _⟩
termination_by values.length

namespace FileTree

/-- A file with these octets lies at the location. -/
def HoldsFile (tree : FileTree) (location : Location) (octets : List UInt8) : Prop :=
  ∃ isExecutable, tree.find? location = some (.file octets isExecutable)

/-- What is found below the root is an entry of the tree. -/
theorem mem_locations_of_find? {tree : FileTree} {location : Location} {entry : Entry}
    (hfind : tree.find? location = some entry) (hbelow : location ≠ []) :
    location ∈ tree.locations := by
  rw [find?, if_neg hbelow] at hfind
  rw [locations, List.mem_eraseDups]
  exact List.mem_map_of_mem (f := Prod.fst) (mem_of_lookup hfind)

/-! ### The files below a location -/

/-- A file is listed under the names that lead to it. -/
theorem mem_filesBelow_iff {tree : FileTree} {location : Location} {names : List String}
    {octets : List UInt8} :
    (names, octets) ∈ tree.filesBelow location ↔ tree.HoldsFile (location ++ names) octets := by
  rw [filesBelow, List.mem_mergeSort, List.mem_filterMap]
  constructor
  · rintro ⟨place, -, hplace⟩
    split at hplace
    · rename_i found content isExecutable hstarts hfile
      obtain ⟨rfl, rfl⟩ := Prod.mk.inj (Option.some.inj hplace)
      rw [List.isPrefixOf?_eq_some_iff_append_eq] at hstarts
      exact ⟨isExecutable, hstarts ▸ hfile⟩
    · cases hplace
  · rintro ⟨isExecutable, hfile⟩
    have hbelow : location ++ names ≠ [] := by
      intro hroot
      rw [hroot, find?_root] at hfile
      cases hfile
    refine ⟨location ++ names, mem_locations_of_find? hfile hbelow, ?_⟩
    have hstarts : location.isPrefixOf? (location ++ names) = some names :=
      List.isPrefixOf?_eq_some_iff_append_eq.mpr rfl
    simp only [hstarts, hfile]

/-- No two files are listed under the same names. -/
theorem nodup_filesBelow (tree : FileTree) (location : Location) :
    ((tree.filesBelow location).map Prod.fst).Nodup := by
  rw [filesBelow, ((List.mergeSort_perm _ _).map Prod.fst).nodup_iff, List.map_filterMap]
  refine (nodup_eraseDups _).filterMap fun place other names hplace hother ↦ ?_
  -- A place is what its names lead to.
  split at hplace
  · rename_i found _ _ hstarts _
    obtain rfl : found = names := Option.some.inj hplace
    split at hother
    · rename_i others _ _ hstartsOther _
      obtain rfl : others = found := Option.some.inj hother
      rw [List.isPrefixOf?_eq_some_iff_append_eq] at hstarts hstartsOther
      rw [← hstarts, ← hstartsOther]
    · cases hother
  · cases hplace

instance : Std.TransCmp locationOrder :=
  inferInstanceAs (Std.TransCmp (List.compareLex compare))

instance : Std.LawfulEqCmp locationOrder :=
  inferInstanceAs (Std.LawfulEqCmp (List.compareLex compare))

/-- Files are listed in the order of the names that lead to them. -/
theorem pairwise_filesBelow (tree : FileTree) (location : Location) :
    (tree.filesBelow location).Pairwise fun first second ↦
      (locationOrder first.1 second.1).isLE = true := by
  have hatMost : ∀ first second : Location × List UInt8,
      (locationOrder first.1 second.1 != .gt) = true ↔
        (locationOrder first.1 second.1).isLE = true :=
    fun first second ↦ bne_iff_ne.trans Ordering.isLE_iff_ne_gt.symm
  simp only [← hatMost]
  refine List.pairwise_mergeSort (fun first second third hfirst hsecond ↦ ?_)
    (fun first second ↦ ?_) _
  · rw [hatMost] at hfirst hsecond ⊢
    exact Std.TransCmp.isLE_trans hfirst hsecond
  · rw [Bool.or_eq_true, bne_iff_ne, bne_iff_ne]
    exact or_iff_not_imp_left.mpr fun hnot ↦ Std.OrientedCmp.not_gt_of_gt (not_not.mp hnot)

/-- The chosen files below two locations are listed alike if they are the same. -/
theorem filter_filesBelow_congr {tree other : FileTree} {place otherPlace : Location}
    {isChosen : Location × List UInt8 → Bool}
    (hsame : ∀ names octets, isChosen (names, octets) = true →
      (tree.HoldsFile (place ++ names) octets ↔ other.HoldsFile (otherPlace ++ names) octets)) :
    (tree.filesBelow place).filter isChosen = (other.filesBelow otherPlace).filter isChosen := by
  have hnodup : ∀ (tree : FileTree) (place : Location), (tree.filesBelow place).Nodup :=
    fun tree place ↦ .of_map _ (tree.nodup_filesBelow place)
  have hperm : ((tree.filesBelow place).filter isChosen).Perm
      ((other.filesBelow otherPlace).filter isChosen) := by
    refine (List.perm_ext_iff_of_nodup ((hnodup tree place).filter _)
      ((hnodup other otherPlace).filter _)).mpr fun ⟨names, octets⟩ ↦ ?_
    rw [List.mem_filter, List.mem_filter, mem_filesBelow_iff, mem_filesBelow_iff]
    exact and_congr_left (hsame names octets)
  -- Files on a level have the same names, and there is one file under a name.
  refine hperm.eq_of_pairwise (fun first second hfirst hsecond hle hge ↦ ?_)
    ((tree.pairwise_filesBelow place).filter _) ((other.pairwise_filesBelow otherPlace).filter _)
  have hlevel := Std.OrientedCmp.isLE_antisymm hle hge
  exact List.inj_on_of_nodup_map (other.nodup_filesBelow otherPlace)
    (List.mem_of_mem_filter (hperm.mem_iff.mp hfirst)) (List.mem_of_mem_filter hsecond)
    (Std.LawfulEqCmp.eq_of_compare hlevel)

end FileTree

namespace Corpus

/-! ### Entries -/

/-- The error of an entry in an artifact directory. -/
def fault? (entry : String × String) : Option Fault :=
  match ArtifactKind.ofName? entry.1, Template.parse entry.1 entry.2 with
  | some _, .error fault => some fault
  | _, _ => none

/-- The template of an entry in an artifact directory, under the entry's name. -/
def loaded? (entry : String × String) : Option (String × Template) :=
  match ArtifactKind.ofName? entry.1, Template.parse entry.1 entry.2 with
  | some _, .ok template => some (entry.1, template)
  | _, _ => none

/-- Entries are added up to the first error. -/
theorem addEntries_eq (corpus : Corpus) (entries : List (String × String)) :
    corpus.addEntries entries =
      match entries.findSome? fault? with
      | some fault => .error fault
      | none => .ok ⟨(entries.filterMap loaded?).foldl
          (fun table pair ↦ table.insert pair.1 pair.2) corpus.templates⟩ := by
  induction entries generalizing corpus with
  | nil => rfl
  | cons entry rest ih =>
    obtain ⟨name, body⟩ := entry
    rw [addEntries, List.findSome?_cons, List.filterMap_cons, fault?, loaded?]
    cases ArtifactKind.ofName? name with
    | none => exact ih corpus
    | some kind =>
      cases Template.parse name body with
      | error fault => rfl
      | ok template => exact ih _

/-- The corpus of entries holds what is loaded, unless there is an error. -/
theorem ofEntries_eq (entries : List (String × String)) :
    ofEntries entries =
      match entries.findSome? fault? with
      | some fault => .error fault
      | none => .ok ⟨Table.ofList (entries.filterMap loaded?)⟩ :=
  addEntries_eq empty entries

/-- Entries outside the artifact directories have no part in a corpus. -/
theorem ofEntries_filter (entries : List (String × String)) :
    ofEntries (entries.filter fun entry ↦ (ArtifactKind.ofName? entry.1).isSome) =
      ofEntries entries := by
  have hfault : (fun entry ↦ if (ArtifactKind.ofName? entry.1).isSome then fault? entry else none) =
      fault? := by
    funext entry
    rw [fault?]
    cases ArtifactKind.ofName? entry.1 <;> rfl
  have hloaded : (fun entry ↦ if (ArtifactKind.ofName? entry.1).isSome then loaded? entry
      else none) = loaded? := by
    funext entry
    rw [loaded?]
    cases ArtifactKind.ofName? entry.1 <;> rfl
  rw [ofEntries_eq, ofEntries_eq, ← List.head?_filterMap, ← List.head?_filterMap,
    List.filterMap_filter, List.filterMap_filter, hfault, hloaded]

/-- The file is one that is read. -/
def isRead (file : Location × List UInt8) : Bool :=
  !file.1.any isHidden

/-- The file is read, but is no text. -/
def isUnreadable (file : Location × List UInt8) : Bool :=
  isRead file && (Text.Utf8.decode? file.2).isNone

/-- The path that leads from a directory to a file below it. -/
def pathOf (directory : Path) (file : Location × List UInt8) : Path :=
  file.1.foldl (·.join ⟨·⟩) directory

/-- The entry that is made of a file. -/
def entryOf? (file : Location × List UInt8) : Option (String × String) :=
  if isRead file then (Text.Utf8.decode? file.2).map fun body ↦ (Text.joinWith "/" file.1, body)
  else none

/-- Files are read up to the first that is no text. -/
theorem readEntries_eq (directory : Path) (files : List (Location × List UInt8)) :
    readEntries directory files =
      match files.find? isUnreadable with
      | some file => .error (.unreadable (pathOf directory file) .invalidText)
      | none => .ok (files.filterMap entryOf?) := by
  induction files with
  | nil => rfl
  | cons file rest ih =>
    obtain ⟨names, octets⟩ := file
    rw [readEntries, List.find?_cons, List.filterMap_cons, isUnreadable, entryOf?, isRead]
    cases hhidden : names.any isHidden with
    | true => simpa using ih
    | false =>
      simp only [FileTree.textOf]
      cases htext : Text.Utf8.decode? octets with
      | none => rfl
      | some body =>
        simp only [ih]
        cases rest.find? isUnreadable <;> rfl

/-! ### Templates and strays -/

/-- The names lead to a template: their path begins with an artifact directory. -/
def isTemplateName (names : List String) : Bool :=
  (ArtifactKind.ofName? (Text.joinWith "/" names)).isSome

/-- A file that is read lies outside the artifact directories and is no text. -/
def HasStray (tree : FileTree) (place : Location) : Prop :=
  ∃ names octets, tree.HoldsFile (place ++ names) octets ∧ isUnreadable (names, octets) = true ∧
    isTemplateName names = false

/-- The corpus that is put together of files. -/
def ofFiles (directory : Path) (files : List (Location × List UInt8)) :
    Except CorpusError Corpus := do
  let entries ← readEntries directory files
  (ofEntries entries).mapError .faulty

/-- The path leads to a directory there. -/
def LeadsTo (tree : FileTree) (here : Location) (directory : Path) (place : Location) : Prop :=
  tree.locate here directory true = .ok place ∧ tree.hasDirectory place = true

theorem ofDirectory_eq {tree : FileTree} {here place : Location} {directory : Path}
    (hplace : LeadsTo tree here directory place) :
    ofDirectory tree here directory = ofFiles directory (tree.filesBelow place) := by
  rw [ofDirectory, hplace.1]
  exact if_pos hplace.2

/-- If a file is no text, the first such file is the error. -/
theorem ofFiles_of_unreadable {directory : Path} {files : List (Location × List UInt8)}
    {file : Location × List UInt8} (hfile : files.find? isUnreadable = some file) :
    ofFiles directory files = .error (.unreadable (pathOf directory file) .invalidText) := by
  rw [ofFiles, readEntries_eq, hfile]
  rfl

theorem ofFiles_of_texts {directory : Path} {files : List (Location × List UInt8)}
    (htexts : files.find? isUnreadable = none) :
    ofFiles directory files = (ofEntries (files.filterMap entryOf?)).mapError .faulty := by
  rw [ofFiles, readEntries_eq, htexts]
  rfl

/-- Leaving out members that are not looked for does not change what is found. -/
theorem find?_filter_of_forall {α : Type} {isChosen isSought : α → Bool} {values : List α}
    (hsought : ∀ value ∈ values, isSought value = true → isChosen value = true) :
    (values.filter isChosen).find? isSought = values.find? isSought := by
  induction values with
  | nil => rfl
  | cons value rest ih =>
    have hrest := ih fun other hother ↦ hsought other (List.mem_cons_of_mem _ hother)
    cases hvalue : isSought value with
    | true =>
      have hchosen := hsought value List.mem_cons_self hvalue
      rw [List.filter_cons_of_pos hchosen, List.find?_cons_of_pos hvalue,
        List.find?_cons_of_pos hvalue]
    | false =>
      rw [List.find?_cons_of_neg (by simp [hvalue]), ← hrest, List.filter_cons]
      split
      · rw [List.find?_cons_of_neg (by simp [hvalue])]
      · rfl

/-- The entry of a file has the file's path for its name. -/
theorem fst_of_entryOf? {file : Location × List UInt8} {entry : String × String}
    (hentry : entryOf? file = some entry) : entry.1 = Text.joinWith "/" file.1 := by
  rw [entryOf?] at hentry
  split at hentry
  · obtain ⟨body, -, rfl⟩ := Option.map_eq_some_iff.mp hentry
    rfl
  · cases hentry

/-- The entries of templates are the entries with the name of one. -/
theorem filterMap_entryOf?_filter (files : List (Location × List UInt8)) :
    (files.filter fun file ↦ isTemplateName file.1).filterMap entryOf? =
      (files.filterMap entryOf?).filter fun entry ↦ (ArtifactKind.ofName? entry.1).isSome := by
  rw [List.filter_filterMap, List.filterMap_filter]
  refine List.filterMap_congr fun file _ ↦ ?_
  cases hentry : entryOf? file with
  | none => simp
  | some entry =>
    simp only [isTemplateName, Option.filter, fst_of_entryOf? hentry]
    congr

/-- Files that are no templates have no part in a corpus, as long as those that are read are
texts. -/
theorem ofFiles_filter {directory : Path} {files : List (Location × List UInt8)}
    (hothers : ∀ file ∈ files, isUnreadable file = true → isTemplateName file.1 = true) :
    ofFiles directory (files.filter fun file ↦ isTemplateName file.1) =
      ofFiles directory files := by
  have hfind := find?_filter_of_forall hothers
  cases hfile : files.find? isUnreadable with
  | some file => rw [ofFiles_of_unreadable hfile, ofFiles_of_unreadable (hfind.trans hfile)]
  | none =>
    rw [ofFiles_of_texts hfile, ofFiles_of_texts (hfind.trans hfile), filterMap_entryOf?_filter,
      ofEntries_filter]

/-- The templates below two places are the same. -/
def SameTemplates (tree : FileTree) (place : Location) (other : FileTree)
    (otherPlace : Location) : Prop :=
  ∀ names octets, isTemplateName names = true →
    (tree.HoldsFile (place ++ names) octets ↔ other.HoldsFile (otherPlace ++ names) octets)

/-- Without strays a corpus is put together of the templates alone. -/
theorem ofDirectory_of_not_hasStray {tree : FileTree} {here place : Location} {directory : Path}
    (hplace : LeadsTo tree here directory place) (hnone : ¬HasStray tree place) :
    ofDirectory tree here directory =
      ofFiles directory ((tree.filesBelow place).filter fun file ↦ isTemplateName file.1) := by
  rw [ofDirectory_eq hplace]
  refine (ofFiles_filter fun ⟨names, octets⟩ hfile hunreadable ↦ ?_).symm
  by_contra hother
  exact hnone ⟨names, octets, FileTree.mem_filesBelow_iff.mp hfile, hunreadable,
    Bool.eq_false_iff.mpr hother⟩

/-- A stray keeps a corpus from being loaded. -/
theorem ofDirectory_of_hasStray {tree : FileTree} {here place : Location} {directory : Path}
    (hplace : LeadsTo tree here directory place) (hstray : HasStray tree place) :
    ∃ names octets, tree.HoldsFile (place ++ names) octets ∧
      isUnreadable (names, octets) = true ∧
      ofDirectory tree here directory =
        .error (.unreadable (pathOf directory (names, octets)) .invalidText) := by
  obtain ⟨names, octets, hholds, hunreadable, -⟩ := hstray
  have hmem : (names, octets) ∈ tree.filesBelow place := FileTree.mem_filesBelow_iff.mpr hholds
  obtain ⟨⟨firstNames, firstOctets⟩, hfirst⟩ :=
    Option.isSome_iff_exists.mp (List.find?_isSome.mpr ⟨_, hmem, hunreadable⟩)
  exact ⟨firstNames, firstOctets, FileTree.mem_filesBelow_iff.mp (List.mem_of_find?_eq_some hfirst),
    List.find?_some hfirst, (ofDirectory_eq hplace).trans (ofFiles_of_unreadable hfirst)⟩

/-- Two directories with the same templates load as the same corpus or fail with the same error,
whatever lies beside the templates, unless something there is neither hidden nor a text; with such a
stray a directory does not load at all. -/
theorem ofDirectory_ignores_others {tree other : FileTree} {here there place otherPlace : Location}
    {directory elsewhere : Path} (hplace : LeadsTo tree here directory place)
    (hotherPlace : LeadsTo other there elsewhere otherPlace)
    (hsame : SameTemplates tree place other otherPlace) :
    (¬HasStray tree place → ¬HasStray other otherPlace →
      ofDirectory tree here directory = ofDirectory other there elsewhere ∨
        ∃ file, isTemplateName file.1 = true ∧ isUnreadable file = true ∧
          ofDirectory tree here directory =
            .error (.unreadable (pathOf directory file) .invalidText) ∧
          ofDirectory other there elsewhere =
            .error (.unreadable (pathOf elsewhere file) .invalidText)) ∧
      (HasStray tree place → ∃ names octets, tree.HoldsFile (place ++ names) octets ∧
        isUnreadable (names, octets) = true ∧
        ofDirectory tree here directory =
          .error (.unreadable (pathOf directory (names, octets)) .invalidText)) := by
  refine ⟨fun hnone hotherNone ↦ ?_, ofDirectory_of_hasStray hplace⟩
  have hfiles : ((tree.filesBelow place).filter fun file ↦ isTemplateName file.1) =
      (other.filesBelow otherPlace).filter fun file ↦ isTemplateName file.1 :=
    FileTree.filter_filesBelow_congr hsame
  rw [ofDirectory_of_not_hasStray hplace hnone,
    ofDirectory_of_not_hasStray hotherPlace hotherNone, ← hfiles]
  cases hfile : ((tree.filesBelow place).filter fun file ↦ isTemplateName file.1).find?
      isUnreadable with
  | none => exact .inl (by rw [ofFiles_of_texts hfile, ofFiles_of_texts hfile])
  | some file =>
    have htemplate := (List.mem_filter.mp (List.mem_of_find?_eq_some hfile)).2
    exact .inr ⟨file, htemplate, List.find?_some hfile, ofFiles_of_unreadable hfile,
      ofFiles_of_unreadable hfile⟩

/-! ### Files beside the templates -/

theorem SameTemplates.refl (tree : FileTree) (place : Location) :
    SameTemplates tree place tree place :=
  fun _ _ _ ↦ Iff.rfl

/-- Putting something where no template lies keeps the templates. -/
theorem SameTemplates.put {tree other : FileTree} {place location : Location}
    (hsame : SameTemplates tree place other []) (entry : Entry) (hbelow : location ≠ [])
    (hlocation : isTemplateName location = false) :
    SameTemplates tree place (other.put location entry) [] := by
  intro names octets htemplate
  have hne : location ≠ names := by
    rintro rfl
    rw [hlocation] at htemplate
    cases htemplate
  rw [hsame names octets htemplate, FileTree.HoldsFile, FileTree.HoldsFile, List.nil_append,
    FileTree.find?_put other hbelow, if_neg hne]

theorem not_hasStray_empty : ¬HasStray FileTree.empty [] := by
  rintro ⟨names, octets, ⟨isExecutable, hfile⟩, -⟩
  by_cases hroot : names = []
  · rw [hroot, List.nil_append, FileTree.find?_root] at hfile
    cases hfile
  · rw [List.nil_append, FileTree.find?_empty hroot] at hfile
    cases hfile

/-- Putting what is no unreadable file adds no stray. -/
theorem not_hasStray_put {tree : FileTree} {location : Location} {entry : Entry}
    (hnone : ¬HasStray tree []) (hbelow : location ≠ [])
    (hentry : ∀ octets isExecutable, entry = .file octets isExecutable →
      isUnreadable (location, octets) = false) : ¬HasStray (tree.put location entry) [] := by
  rintro ⟨names, octets, ⟨isExecutable, hfile⟩, hunreadable, hother⟩
  rw [List.nil_append, FileTree.find?_put tree hbelow] at hfile
  split at hfile
  · rename_i hnames
    subst hnames
    rw [hentry octets isExecutable (Option.some.inj hfile)] at hunreadable
    cases hunreadable
  · exact hnone ⟨names, octets, ⟨isExecutable, hfile⟩, hunreadable, hother⟩

/-- A directory that holds the template `libyal/x.h`. -/
def oneTemplate : FileTree :=
  (FileTree.empty.put ["libyal"] .directory).put ["libyal", "x.h"] (.file [120] false)

/-- A text and a hidden file that is no text, beside the template. -/
def amongReadable : FileTree :=
  (oneTemplate.put ["README"] (.file [104] false)).put [".config"] (.file [255] false)

/-- A file that is no text, beside the template. -/
def amongUnreadable : FileTree :=
  oneTemplate.put ["logo.png"] (.file [255] false)

theorem not_hasStray_oneTemplate : ¬HasStray oneTemplate [] := by
  have hdirectory : ¬HasStray (FileTree.empty.put ["libyal"] .directory) [] :=
    not_hasStray_put not_hasStray_empty (by decide) fun _ _ hentry ↦ by cases hentry
  refine not_hasStray_put hdirectory (by decide) ?_
  rintro octets isExecutable ⟨rfl, rfl⟩
  decide

theorem not_hasStray_amongReadable : ¬HasStray amongReadable [] := by
  have hread : ¬HasStray (oneTemplate.put ["README"] (.file [104] false)) [] := by
    refine not_hasStray_put not_hasStray_oneTemplate (by decide) ?_
    rintro octets isExecutable ⟨rfl, rfl⟩
    decide
  refine not_hasStray_put hread (by decide) ?_
  rintro octets isExecutable ⟨rfl, rfl⟩
  decide

theorem isSome_oneTemplate : (ofDirectory oneTemplate [] ⟨"."⟩).toOption.isSome = true := by
  decide +kernel

theorem amongReadable_loads_as_oneTemplate :
    LeadsTo oneTemplate [] ⟨"."⟩ [] ∧ LeadsTo amongReadable [] ⟨"."⟩ [] ∧
      SameTemplates oneTemplate [] amongReadable [] ∧ ¬HasStray oneTemplate [] ∧
      ¬HasStray amongReadable [] ∧
      ofDirectory oneTemplate [] ⟨"."⟩ = ofDirectory amongReadable [] ⟨"."⟩ := by
  have hplace : LeadsTo oneTemplate [] ⟨"."⟩ [] := ⟨by decide, by decide⟩
  have hotherPlace : LeadsTo amongReadable [] ⟨"."⟩ [] := ⟨by decide, by decide⟩
  have hsame : SameTemplates oneTemplate [] amongReadable [] :=
    ((SameTemplates.refl oneTemplate []).put _ (by decide) (by decide)).put _ (by decide)
      (by decide)
  refine ⟨hplace, hotherPlace, hsame, not_hasStray_oneTemplate, not_hasStray_amongReadable, ?_⟩
  obtain hequal | ⟨file, -, -, hfails, -⟩ := (ofDirectory_ignores_others hplace hotherPlace hsame).1
    not_hasStray_oneTemplate not_hasStray_amongReadable
  · exact hequal
  · have hloads := isSome_oneTemplate
    rw [hfails] at hloads
    cases hloads

theorem amongUnreadable_loads_not :
    SameTemplates oneTemplate [] amongUnreadable [] ∧
      (ofDirectory oneTemplate [] ⟨"."⟩).toOption.isSome = true ∧
      ∃ path, ofDirectory amongUnreadable [] ⟨"."⟩ = .error (.unreadable path .invalidText) := by
  have hplace : LeadsTo amongUnreadable [] ⟨"."⟩ [] := ⟨by decide, by decide⟩
  have hstray : HasStray amongUnreadable [] :=
    ⟨["logo.png"], [255], ⟨false, by decide⟩, by decide, by decide⟩
  obtain ⟨names, octets, -, -, hfails⟩ := ofDirectory_of_hasStray hplace hstray
  exact ⟨(SameTemplates.refl oneTemplate []).put _ (by decide) (by decide), isSome_oneTemplate,
    _, hfails⟩

end Corpus

end Scaffold
