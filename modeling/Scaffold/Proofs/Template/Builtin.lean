import Scaffold.Proofs.Artifact.Planning
import Scaffold.Proofs.Template.Loading
import Scaffold.Proofs.Template.Printing

/-!
# The corpus of the built-in templates

A corpus made of printed templates can be read whatever they say (`ofEntries_printed`), and its
templates of a kind are those whose names lie in the directory of the kind
(`perm_ofKind_ofList`). So the built-in corpus is `Corpus.shipped`: two library headers, a header
stub, the sections of a type test without a gap, and a macro file.

Which tokens the built-in templates use is a matter of looking. `supplied` names the tokens that
every project supplies for artifacts of a kind, and with a value for each of these every token of
every built-in template of that kind has a meaning (`exists_meaning_of_mem_ofKind`).
-/

set_option autoImplicit false

namespace Scaffold

/-! ### Corpora of printed templates -/

namespace Template

theorem hasNames_iff {segments : List Segment} :
    HasNames segments ↔
      ∀ token ∈ segments.filterMap Segment.token?, Segment.isTokenName token.toList = true := by
  have htoken : ∀ token, token ∈ segments.filterMap Segment.token? ↔
      .placeholder token ∈ segments := by
    intro token
    rw [List.mem_filterMap]
    constructor
    · rintro ⟨segment, hsegment, htoken⟩
      cases segment with
      | literal text => cases htoken
      | placeholder other => rwa [← Option.some.inj htoken]
    · exact fun hsegment ↦ ⟨_, hsegment, rfl⟩
  simp only [htoken, HasNames]

end Template

namespace Corpus

/-- Printed templates with names in the artifact directories make up a corpus. -/
theorem ofEntries_printed {sources : List (String × List Segment)}
    (hkinds : ∀ source ∈ sources, (ArtifactKind.ofName? source.1).isSome = true)
    (hnames : ∀ source ∈ sources, Template.HasNames source.2) :
    ofEntries (sources.map fun source ↦ (source.1, Segment.print source.2)) =
      .ok ⟨Table.ofList (sources.map fun source ↦
        (source.1, Template.printed source.1 source.2))⟩ := by
  have hload : ∀ source ∈ sources, fault? (source.1, Segment.print source.2) = none ∧
      loaded? (source.1, Segment.print source.2) =
        some (source.1, Template.printed source.1 source.2) := by
    intro source hsource
    obtain ⟨kind, hkind⟩ := Option.isSome_iff_exists.mp (hkinds source hsource)
    have hparse := Template.parse_printed source.1 (hnames source hsource)
    simp [fault?, loaded?, hkind, hparse]
  have hfaultless : sources.findSome?
      (fault? ∘ fun source ↦ (source.1, Segment.print source.2)) = none :=
    List.findSome?_eq_none_iff.mpr fun source hsource ↦ (hload source hsource).1
  have hloaded : sources.filterMap (loaded? ∘ fun source ↦ (source.1, Segment.print source.2)) =
      sources.map fun source ↦ (source.1, Template.printed source.1 source.2) := by
    rw [← List.filterMap_eq_map]
    exact List.filterMap_congr fun source hsource ↦ (hload source hsource).2
  rw [ofEntries_eq, List.findSome?_map, List.filterMap_map, hfaultless, hloaded]

/-- The templates of a kind in a corpus of pairs are those in the directory of the kind. -/
theorem perm_ofKind_ofList {pairs : List (String × Template)}
    (hnames : (pairs.map Prod.fst).Nodup) (kind : ArtifactKind) :
    (ofKind ⟨Table.ofList pairs⟩ kind).Perm
      ((pairs.filter fun pair ↦ ArtifactKind.ofName? pair.1 == some kind).map Prod.snd) := by
  have hlist : ∀ entries : List (String × Template),
      ((entries.filterMap fun pair ↦ (ArtifactKind.ofName? pair.1).map fun kind ↦
        (kind, pair.2)).filter fun entry ↦ entry.1 == kind).map (·.2) =
      (entries.filter fun pair ↦ ArtifactKind.ofName? pair.1 == some kind).map Prod.snd := by
    intro entries
    induction entries with
    | nil => rfl
    | cons entry rest ih =>
      obtain ⟨name, template⟩ := entry
      cases hkind : ArtifactKind.ofName? name with
      | none => simpa [List.filterMap_cons, List.filter_cons, hkind] using ih
      | some other =>
        by_cases heq : other = kind <;>
          simpa [List.filterMap_cons, List.filter_cons, hkind, heq] using ih
  rw [← hlist]
  exact (((Table.perm_entries_ofList hnames).filterMap _).filter _).map _

end Corpus

/-! ### What is built in -/

namespace Template.Builtin

/-- Names and segments of the built-in templates. -/
def sources : List (String × List Segment) :=
  [("libyal/libyal_extern.h", externHeader), ("libyal/libyal_support.h", supportHeader),
    ("pyyal/pyyal_guid.h", guidHeader), ("yal_test_type/header.c", testHeader),
    ("yal_test_type/initialize.c", testInitialize), ("yal_test_type/free.c", testFree),
    ("yal_test_type/clear_with_free_function.c", testClear), ("yal_test_type/main.c", testMain),
    ("m4/libyal_dependency.m4", dependencyMacro)]

theorem entries_eq :
    entries = sources.map fun source ↦ (source.1, Segment.print source.2) := by
  simp only [entries, sources, List.map_cons, List.map_nil]

/-- The tokens that every project supplies for artifacts of a kind. -/
def supplied : ArtifactKind → List String
  | .librarySource | .headerStub =>
    ["authors", "copyright", "library_name", "library_description"]
  | .testSource =>
    ["authors", "copyright", "library_name", "library_description", "type_name", "value_name"]
  | .buildMacro =>
    ["authors", "copyright", "library_name", "library_description"] ++ Finding.tokenNames

/-- The supplied tokens of a kind with empty values. -/
def blank (kind : ArtifactKind) : TokenTable :=
  Table.ofList ((supplied kind).map fun name ↦ (name, ""))

/-- The tokens of a source have a meaning once those of its kind are supplied. -/
def isDerivable (source : String × List Segment) : Bool :=
  (ArtifactKind.ofName? source.1).all fun kind ↦
    (source.2.filterMap Segment.token?).all fun token ↦ (Token.meaning? (blank kind) token).isSome

theorem isDerivable_of_mem {source : String × List Segment} (hsource : source ∈ sources) :
    isDerivable source = true := by
  have hall : sources.all isDerivable = true := by decide +kernel
  exact List.all_eq_true.mp hall source hsource

theorem hasNames_of_mem {source : String × List Segment} (hsource : source ∈ sources) :
    HasNames source.2 := by
  have hall : (sources.all fun source ↦ (source.2.filterMap Segment.token?).all fun token ↦
      Segment.isTokenName token.toList) = true := by decide +kernel
  exact hasNames_iff.mpr (List.all_eq_true.mp (List.all_eq_true.mp hall source hsource))

end Template.Builtin

namespace Corpus

open Template.Builtin (sources supplied)

/-- The corpus of the built-in templates. -/
def shipped : Corpus :=
  ⟨Table.ofList (sources.map fun source ↦ (source.1, Template.printed source.1 source.2))⟩

theorem builtin_eq : builtin = .ok shipped := by
  have hkinds : (sources.all fun source ↦ (ArtifactKind.ofName? source.1).isSome) = true := by
    decide +kernel
  rw [builtin, Template.Builtin.entries_eq]
  exact ofEntries_printed (List.all_eq_true.mp hkinds)
    fun _ hsource ↦ Template.Builtin.hasNames_of_mem hsource

/-- The names of the built-in templates of a kind are those in its directory. -/
theorem perm_names_ofKind (kind : ArtifactKind) :
    ((shipped.ofKind kind).map Template.name).Perm
      ((sources.map Prod.fst).filter fun name ↦ ArtifactKind.ofName? name == some kind) := by
  have hnames : ((sources.map fun source ↦
      (source.1, Template.printed source.1 source.2)).map Prod.fst).Nodup := by
    have hdistinct : (sources.map Prod.fst).Nodup := by decide +kernel
    simpa [Function.comp_def] using hdistinct
  refine ((perm_ofKind_ofList hnames kind).map Template.name).trans (.of_eq ?_)
  rw [List.filter_map, List.filter_map, List.map_map, List.map_map]
  rfl

/-- A built-in template of a kind is printed from a source in the directory of the kind. -/
theorem exists_source_of_mem_ofKind {kind : ArtifactKind} {template : Template}
    (htemplate : template ∈ shipped.ofKind kind) :
    ∃ source ∈ sources, ArtifactKind.ofName? source.1 = some kind ∧
      template = Template.printed source.1 source.2 := by
  obtain ⟨name, hfind, hkind⟩ := mem_ofKind_iff.mp htemplate
  obtain ⟨source, hsource, heq⟩ := List.mem_map.mp (Table.mem_of_find?_ofList hfind)
  obtain ⟨rfl, rfl⟩ := Prod.mk.inj heq
  exact ⟨source, hsource, hkind, rfl⟩

/-- Every token of a built-in template has a meaning once the tokens of its kind are supplied. -/
theorem exists_meaning_of_mem_ofKind {kind : ArtifactKind} {base : TokenTable}
    (hsupplied : ∀ name ∈ supplied kind, ∃ value, base.find? name = some value)
    {template : Template} (htemplate : template ∈ shipped.ofKind kind) :
    ∀ token ∈ template.tokens, ∃ value, Token.meaning? base token = some value := by
  obtain ⟨source, hsource, hkind, rfl⟩ := exists_source_of_mem_ofKind htemplate
  have hderivable := Template.Builtin.isDerivable_of_mem hsource
  rw [Template.Builtin.isDerivable, hkind, Option.all_some, List.all_eq_true] at hderivable
  intro token htoken
  rw [Template.tokens_printed] at htoken
  refine Token.exists_meaning_mono (fun name value hname ↦ hsupplied name ?_)
    (Option.isSome_iff_exists.mp (hderivable token htoken))
  have hpair := Table.mem_of_find?_ofList hname
  simpa using List.mem_map_of_mem (f := Prod.fst) hpair

/-- The built-in templates lack no section of a type test. -/
theorem missingSection?_shipped : shipped.missingSection? = none := by
  have hsections : ∀ name ∈ sectionNames, name ∈ sources.map Prod.fst := by decide +kernel
  have hfound : (sectionNames.find? fun name ↦ (shipped.find? name).isNone) = none := by
    rw [List.find?_eq_none]
    intro name hname
    obtain ⟨template, htemplate⟩ : ∃ template, shipped.templates.find? name = some template :=
      Table.exists_find?_ofList (by simpa using hsections name hname)
    simp [find?, htemplate]
  rw [missingSection?, hfound, ite_self]

end Corpus

end Scaffold
