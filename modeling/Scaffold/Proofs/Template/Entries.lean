import Mathlib.Data.List.Nodup
import Scaffold.Proofs.Template.Loading
import Scaffold.Proofs.Template.Parsing
import Scaffold.Proofs.Token.Table

/-!
# What a corpus is made of

Three things happen to the entries of a corpus on the way: those outside the artifact directories
are passed over, the first body that is no template ends the reading, and a later entry replaces
an earlier one of its name. Reading goes on behind an entry that will be replaced, so the three do
not get in each other's way: the errors are looked for in the list as it is, and only then the
templates are put into a table (`ofEntries_eq`).

In a table the last pair of a name counts (`Table.find?_ofList_eq_some_iff`), and the corpus keeps
each template under its own name, in an artifact directory (`IsFiled`). That is all that listing
it needs: each template is listed once, in the order of the octets of its name, and belongs to the
kind of its first directory (`ofEntries_keeps_last_of_each_name`).
-/

set_option autoImplicit false

namespace Scaffold

/-! ### The last pair of a name -/

namespace Table

variable {α β : Type}

/-- The value stands in the last pair with the name. -/
def IsLast (pairs : List (String × α)) (name : String) (value : α) : Prop :=
  ∃ before after, pairs = before ++ (name, value) :: after ∧ name ∉ after.map Prod.fst

theorem lookup_eq_find? (name : String) (entries : List (String × α)) :
    lookup name entries = (entries.find? fun entry ↦ entry.1 == name).map Prod.snd := by
  induction entries with
  | nil => rfl
  | cons entry rest ih =>
    rw [lookup, List.find?_cons, ih]
    by_cases hkey : entry.1 = name
    · simp [hkey]
    · simp [hkey, beq_eq_false_iff_ne.mpr hkey]

theorem lookup_eq_some_iff {name : String} {value : α} {entries : List (String × α)} :
    lookup name entries = some value ↔
      ∃ before after, entries = before ++ (name, value) :: after ∧
        name ∉ before.map Prod.fst := by
  rw [lookup_eq_find?, Option.map_eq_some_iff]
  constructor
  · rintro ⟨⟨key, held⟩, hfind, rfl⟩
    obtain ⟨hkey, before, after, hentries, hbefore⟩ := List.find?_eq_some_iff_append.mp hfind
    obtain rfl : key = name := eq_of_beq hkey
    refine ⟨before, after, hentries, fun hmem ↦ ?_⟩
    obtain ⟨entry, hentry, hsame⟩ := List.mem_map.mp hmem
    simpa [hsame] using hbefore entry hentry
  · rintro ⟨before, after, hentries, hbefore⟩
    refine ⟨(name, value), List.find?_eq_some_iff_append.mpr ⟨beq_self_eq_true name, before, after,
      hentries, fun entry hentry ↦ ?_⟩, rfl⟩
    have hne : entry.1 ≠ name := fun heq ↦ hbefore (List.mem_map.mpr ⟨entry, hentry, heq⟩)
    simpa using hne

/-- Looking from the end finds the last pair of a name. -/
theorem lookup_reverse_eq_some_iff {name : String} {value : α} {pairs : List (String × α)} :
    lookup name pairs.reverse = some value ↔ IsLast pairs name value := by
  rw [lookup_eq_some_iff]
  constructor
  · rintro ⟨before, after, hpairs, hbefore⟩
    refine ⟨after.reverse, before.reverse, ?_, by simpa using hbefore⟩
    simpa using congrArg List.reverse hpairs
  · rintro ⟨before, after, rfl, hafter⟩
    exact ⟨after.reverse, before.reverse, by simp, by simpa using hafter⟩

/-- In the table of a list a name has the value of its last pair. -/
theorem find?_ofList_eq_some_iff {pairs : List (String × α)} {name : String} {value : α} :
    (ofList pairs).find? name = some value ↔ IsLast pairs name value := by
  rw [find?_ofList, lookup_reverse_eq_some_iff]

/-- Reading entries and then looking for a name comes to reading what is found under the name, if
each entry of that name can be read. -/
theorem lookup_filterMap {name : String} {entries : List (String × α)}
    {read : String × α → Option (String × β)}
    (hkeep : ∀ entry kept, read entry = some kept → kept.1 = entry.1)
    (hread : ∀ value, (name, value) ∈ entries → ∃ kept, read (name, value) = some kept) :
    lookup name (entries.filterMap read) =
      (lookup name entries).bind fun value ↦ (read (name, value)).map Prod.snd := by
  induction entries with
  | nil => rfl
  | cons entry rest ih =>
    obtain ⟨key, held⟩ := entry
    have hrest := ih fun value hvalue ↦ hread value (List.mem_cons_of_mem _ hvalue)
    by_cases hkey : key = name
    · subst hkey
      obtain ⟨⟨other, value⟩, hvalue⟩ := hread held List.mem_cons_self
      obtain rfl : other = key := hkeep _ _ hvalue
      simp [List.filterMap_cons_some hvalue, lookup, hvalue]
    · rw [lookup, if_neg hkey, ← hrest]
      cases hkept : read (key, held) with
      | none => rw [List.filterMap_cons_none hkept]
      | some kept =>
        rw [List.filterMap_cons_some hkept, lookup, if_neg (hkeep _ _ hkept ▸ hkey)]

/-- The order of pairs with distinct names plays no part. -/
theorem ofList_perm {pairs others : List (String × α)} (hperm : pairs.Perm others)
    (hnames : (pairs.map Prod.fst).Nodup) : ofList pairs = ofList others := by
  have hothers : (others.map Prod.fst).Nodup := (hperm.map Prod.fst).nodup_iff.mp hnames
  refine ext_find? fun name ↦ Option.ext fun value ↦ ?_
  rw [find?_eq_some_iff, find?_eq_some_iff, (perm_entries_ofList hnames).mem_iff,
    (perm_entries_ofList hothers).mem_iff, hperm.mem_iff]

end Table

/-! ### Kinds of names -/

namespace ArtifactKind

/-- What stands before the first slash of the name is the directory of the kind. -/
def Holds (kind : ArtifactKind) (name : String) : Prop :=
  Text.IsBeforeFirst '/' name kind.directory

theorem ofName?_eq_some_iff {name : String} {kind : ArtifactKind} :
    ofName? name = some kind ↔ kind.Holds name := by
  rw [Holds, Text.isBeforeFirst_iff, ofName?]
  cases hcut : Text.cutAt? '/' name with
  | none => simp
  | some parts =>
    obtain ⟨first, rest⟩ := parts
    constructor
    · intro hkind
      have hdirectory : kind.directory = first := by simpa using List.find?_some hkind
      exact ⟨rest, by rw [hdirectory]⟩
    · rintro ⟨_, hsome⟩
      obtain ⟨rfl, rfl⟩ := Prod.mk.inj (Option.some.inj hsome)
      cases kind <;> rfl

/-- A name belongs to the kind of its first directory and to no other. -/
theorem Holds.unique {kind other : ArtifactKind} {name : String} (hkind : kind.Holds name)
    (hother : other.Holds name) : kind = other :=
  Option.some.inj ((ofName?_eq_some_iff.mpr hkind).symm.trans (ofName?_eq_some_iff.mpr hother))

theorem ofName?_eq_none_iff {name : String} :
    ofName? name = none ↔ ∀ kind : ArtifactKind, ¬kind.Holds name := by
  simp [Option.eq_none_iff_forall_ne_some, ofName?_eq_some_iff]

end ArtifactKind

namespace Corpus

/-! ### Entries -/

theorem fault?_eq_some_iff {entry : String × String} {fault : Fault} :
    fault? entry = some fault ↔
      (∃ kind : ArtifactKind, kind.Holds entry.1) ∧
        Template.parse entry.1 entry.2 = .error fault := by
  simp only [← ArtifactKind.ofName?_eq_some_iff]
  rw [fault?]
  split <;> simp_all

theorem loaded?_eq_some_iff {entry : String × String} {kept : String × Template} :
    loaded? entry = some kept ↔
      (∃ kind : ArtifactKind, kind.Holds entry.1) ∧ kept.1 = entry.1 ∧
        Template.parse entry.1 entry.2 = .ok kept.2 := by
  simp only [← ArtifactKind.ofName?_eq_some_iff, loaded?]
  cases ArtifactKind.ofName? entry.1 with
  | none => simp
  | some kind =>
    cases Template.parse entry.1 entry.2 with
    | error fault => simp
    | ok template => simp [Prod.ext_iff, eq_comm]

/-- A body in an artifact directory is no template, and no entry before it is at fault. -/
def StopsWith (entries : List (String × String)) (fault : Fault) : Prop :=
  ∃ before name body after, entries = before ++ (name, body) :: after ∧
    (∃ kind : ArtifactKind, kind.Holds name) ∧ Template.parse name body = .error fault ∧
    ∀ earlier ∈ before, (∃ kind : ArtifactKind, kind.Holds earlier.1) →
      ∃ template, Template.parse earlier.1 earlier.2 = .ok template

/-- An entry is without fault if it lies elsewhere or its body is a template. -/
theorem fault?_eq_none_iff {entry : String × String} :
    fault? entry = none ↔ ((∃ kind : ArtifactKind, kind.Holds entry.1) →
      ∃ template, Template.parse entry.1 entry.2 = .ok template) := by
  simp only [Option.eq_none_iff_forall_ne_some, ne_eq, fault?_eq_some_iff]
  cases Template.parse entry.1 entry.2 <;> simp

theorem ofEntries_eq_error_iff {entries : List (String × String)} {fault : Fault} :
    ofEntries entries = .error fault ↔ StopsWith entries fault := by
  have hfirst : ofEntries entries = .error fault ↔ entries.findSome? fault? = some fault := by
    rw [ofEntries_eq]
    cases entries.findSome? fault? <;> simp
  rw [hfirst, List.findSome?_eq_some_iff]
  simp only [fault?_eq_some_iff, fault?_eq_none_iff]
  constructor
  · rintro ⟨before, ⟨name, body⟩, after, hentries, ⟨hkind, hparse⟩, hbefore⟩
    exact ⟨before, name, body, after, hentries, hkind, hparse, hbefore⟩
  · rintro ⟨before, name, body, after, hentries, hkind, hparse, hbefore⟩
    exact ⟨before, (name, body), after, hentries, ⟨hkind, hparse⟩, hbefore⟩

theorem ofEntries_eq_ok_iff {entries : List (String × String)} {corpus : Corpus} :
    ofEntries entries = .ok corpus ↔
      (∀ entry ∈ entries, fault? entry = none) ∧
        corpus = ⟨Table.ofList (entries.filterMap loaded?)⟩ := by
  rw [ofEntries_eq, ← List.findSome?_eq_none_iff]
  cases entries.findSome? fault? <;> simp [eq_comm]

/-- An entry elsewhere can be left out. -/
theorem ofEntries_append_cons {before after : List (String × String)} {entry : String × String}
    (helsewhere : ∀ kind : ArtifactKind, ¬kind.Holds entry.1) :
    ofEntries (before ++ entry :: after) = ofEntries (before ++ after) := by
  have hnone := ArtifactKind.ofName?_eq_none_iff.mpr helsewhere
  rw [← ofEntries_filter, ← ofEntries_filter (before ++ after), List.filter_append,
    List.filter_append, List.filter_cons_of_neg (by simp [hnone])]

section

variable {entries : List (String × String)} {corpus : Corpus}

/-- The corpus has the parse of the last body of each name in an artifact directory. -/
theorem find?_eq_some_iff_of_ofEntries (hcorpus : ofEntries entries = .ok corpus) {name : String}
    {template : Template} :
    corpus.find? name = some template ↔
      (∃ kind : ArtifactKind, kind.Holds name) ∧
        ∃ body, Table.IsLast entries name body ∧ Template.parse name body = .ok template := by
  obtain ⟨hfaultless, rfl⟩ := ofEntries_eq_ok_iff.mp hcorpus
  by_cases hkind : ∃ kind : ArtifactKind, kind.Holds name
  · have hload : ∀ body, (name, body) ∈ entries → ∃ kept, loaded? (name, body) = some kept := by
      intro body hentry
      obtain ⟨template, hparse⟩ := fault?_eq_none_iff.mp (hfaultless _ hentry) hkind
      exact ⟨(name, template), loaded?_eq_some_iff.mpr ⟨hkind, rfl, hparse⟩⟩
    have hkeep : ∀ entry kept, loaded? entry = some kept → kept.1 = entry.1 :=
      fun entry kept hkept ↦ (loaded?_eq_some_iff.mp hkept).2.1
    have hfind : (Table.ofList (entries.filterMap loaded?)).find? name =
        (Table.lookup name entries.reverse).bind fun body ↦
          (loaded? (name, body)).map Prod.snd := by
      rw [Table.find?_ofList, ← List.filterMap_reverse]
      exact Table.lookup_filterMap hkeep fun body hbody ↦ hload body (List.mem_reverse.mp hbody)
    simp only [find?, hfind, Option.bind_eq_some_iff, Table.lookup_reverse_eq_some_iff,
      Option.map_eq_some_iff, loaded?_eq_some_iff, hkind, true_and]
    constructor
    · rintro ⟨body, hlast, ⟨_, _⟩, ⟨-, hparse⟩, rfl⟩
      exact ⟨body, hlast, hparse⟩
    · rintro ⟨body, hlast, hparse⟩
      exact ⟨body, hlast, (name, template), ⟨rfl, hparse⟩, rfl⟩
  · refine iff_of_false (fun hfind ↦ hkind ?_) fun hknown ↦ hkind hknown.1
    -- What is loaded lies in an artifact directory.
    obtain ⟨entry, -, hloaded⟩ := List.mem_filterMap.mp (Table.mem_of_find?_ofList hfind)
    obtain ⟨hentry, hname, -⟩ := loaded?_eq_some_iff.mp hloaded
    obtain rfl : name = entry.1 := hname
    exact hentry

/-- The corpus has the names of the entries in artifact directories. -/
theorem exists_find?_iff_of_ofEntries (hcorpus : ofEntries entries = .ok corpus) {name : String} :
    (∃ template, corpus.find? name = some template) ↔
      name ∈ entries.map Prod.fst ∧ ∃ kind : ArtifactKind, kind.Holds name := by
  simp only [find?_eq_some_iff_of_ofEntries hcorpus]
  constructor
  · rintro ⟨template, hkind, body, ⟨before, after, rfl, -⟩, -⟩
    exact ⟨by simp, hkind⟩
  · rintro ⟨hname, hkind⟩
    obtain ⟨body, hlast⟩ := Table.exists_find?_ofList hname
    rw [Table.find?_ofList_eq_some_iff] at hlast
    obtain ⟨before, after, hentries, -⟩ := id hlast
    have hentry : (name, body) ∈ entries := by simp [hentries]
    obtain ⟨template, hparse⟩ :=
      fault?_eq_none_iff.mp ((ofEntries_eq_ok_iff.mp hcorpus).1 _ hentry) hkind
    exact ⟨template, hkind, body, hlast, hparse⟩

/-- In lists of distinct names the order of the entries plays no part. -/
theorem ofEntries_perm {others : List (String × String)} (hnames : (entries.map Prod.fst).Nodup)
    (hperm : others.Perm entries) :
    ofEntries others = .ok corpus ↔ ofEntries entries = .ok corpus := by
  have hloaded : ((entries.filterMap loaded?).map Prod.fst).Nodup := by
    refine List.pairwise_map.mpr ((List.pairwise_map.mp hnames).filterMap _ ?_)
    intro first second hne kept hkept other hother
    rwa [(loaded?_eq_some_iff.mp hkept).2.1, (loaded?_eq_some_iff.mp hother).2.1]
  rw [ofEntries_eq_ok_iff, ofEntries_eq_ok_iff,
    ← Table.ofList_perm (hperm.symm.filterMap loaded?) hloaded]
  simp only [hperm.mem_iff]

end

/-! ### Listing -/

/-- Each template is kept under its own name, which begins with an artifact directory. -/
def IsFiled (corpus : Corpus) : Prop :=
  ∀ name template, corpus.find? name = some template →
    template.name = name ∧ ∃ kind : ArtifactKind, kind.Holds name

theorem isFiled_of_ofEntries {entries : List (String × String)} {corpus : Corpus}
    (hcorpus : ofEntries entries = .ok corpus) : corpus.IsFiled := by
  intro name template hfind
  obtain ⟨hkind, body, -, hparse⟩ := (find?_eq_some_iff_of_ofEntries hcorpus).mp hfind
  exact ⟨(Template.parse_eq_ok_iff.mp hparse).1, hkind⟩

end Corpus

/-- The name of the first template comes first in the order of octets. -/
def Template.Precedes (first second : Template) : Prop :=
  Text.Utf8.encode first.name < Text.Utf8.encode second.name

theorem Template.Precedes.ne {first second : Template} (hprecedes : first.Precedes second) :
    first ≠ second := by
  rintro rfl
  exact List.lt_irrefl _ hprecedes

namespace Corpus

section

variable {corpus : Corpus}

theorem IsFiled.mem_all_iff (hfiled : corpus.IsFiled) {kind : ArtifactKind} {template : Template} :
    (kind, template) ∈ corpus.all ↔
      corpus.find? template.name = some template ∧ kind.Holds template.name := by
  simp only [all, List.mem_filterMap, Option.map_eq_some_iff, Prod.mk.injEq,
    ← Table.find?_eq_some_iff, Prod.exists, ArtifactKind.ofName?_eq_some_iff]
  constructor
  · rintro ⟨name, found, hfind, other, hkind, rfl, rfl⟩
    obtain rfl := (hfiled name found hfind).1
    exact ⟨hfind, hkind⟩
  · rintro ⟨hfind, hkind⟩
    exact ⟨template.name, template, hfind, kind, hkind, rfl, rfl⟩

/-- Templates are listed in the order of their names. -/
theorem IsFiled.pairwise_all (hfiled : corpus.IsFiled) :
    (corpus.all.map Prod.snd).Pairwise Template.Precedes := by
  have hname : ∀ entry ∈ corpus.templates.entries, entry.2.name = entry.1 := fun entry hentry ↦
    (hfiled entry.1 entry.2 ((Table.find?_eq_some_iff _ _ _).mpr hentry)).1
  refine List.pairwise_map.mpr (List.pairwise_filterMap.mpr ?_)
  refine corpus.templates.ascending.imp_of_mem ?_
  intro first second hfirst hsecond hlt kept hkept other hother
  obtain ⟨_, -, rfl⟩ := Option.map_eq_some_iff.mp hkept
  obtain ⟨_, -, rfl⟩ := Option.map_eq_some_iff.mp hother
  rw [Template.Precedes, hname first hfirst, hname second hsecond]
  exact Text.Utf8.encode_lt_encode_iff.mpr hlt

theorem mem_ofKind_iff_mem_all {kind : ArtifactKind} {template : Template} :
    template ∈ corpus.ofKind kind ↔ (kind, template) ∈ corpus.all := by
  simp [ofKind]

/-- The templates of a kind are listed in the order of their names. -/
theorem IsFiled.pairwise_ofKind (hfiled : corpus.IsFiled) (kind : ArtifactKind) :
    (corpus.ofKind kind).Pairwise Template.Precedes :=
  hfiled.pairwise_all.sublist (List.filter_sublist.map Prod.snd)

/-- The four kinds share the templates out among them. -/
theorem IsFiled.perm_flatMap_ofKind (hfiled : corpus.IsFiled) :
    (ArtifactKind.all.flatMap corpus.ofKind).Perm (corpus.all.map Prod.snd) := by
  have hkinds : (ArtifactKind.all.flatMap corpus.ofKind).Nodup := by
    refine List.nodup_flatMap.mpr ⟨fun kind _ ↦ (hfiled.pairwise_ofKind kind).imp fun h ↦ h.ne, ?_⟩
    have hdistinct : ArtifactKind.all.Nodup := by decide
    refine hdistinct.imp fun {kind other} hne template hfirst hsecond ↦ ?_
    rw [mem_ofKind_iff_mem_all, hfiled.mem_all_iff] at hfirst hsecond
    exact hne (hfirst.2.unique hsecond.2)
  refine (List.perm_ext_iff_of_nodup hkinds (hfiled.pairwise_all.imp fun h ↦ h.ne)).mpr ?_
  intro template
  simp [mem_ofKind_iff_mem_all, ArtifactKind.mem_all]

end

/-- The corpus has the parse of the last body of each name in an artifact directory, and lists each
template once, in the order of the octets of its name, and under the kind of its first directory. -/
structure Collects (corpus : Corpus) (entries : List (String × String)) : Prop where
  names : ∀ name, (∃ template, corpus.find? name = some template) ↔
    name ∈ entries.map Prod.fst ∧ ∃ kind : ArtifactKind, kind.Holds name
  templates : ∀ name template, corpus.find? name = some template ↔
    (∃ kind : ArtifactKind, kind.Holds name) ∧
      ∃ body, Table.IsLast entries name body ∧ Template.parse name body = .ok template
  listed : ∀ kind template, (kind, template) ∈ corpus.all ↔
    corpus.find? template.name = some template ∧ kind.Holds template.name
  inOrder : (corpus.all.map Prod.snd).Pairwise Template.Precedes
  ofKind : ∀ kind template, template ∈ corpus.ofKind kind ↔
    corpus.find? template.name = some template ∧ kind.Holds template.name
  ofKind_inOrder : ∀ kind, (corpus.ofKind kind).Pairwise Template.Precedes
  shared : (ArtifactKind.all.flatMap corpus.ofKind).Perm (corpus.all.map Prod.snd)

theorem collects_of_ofEntries {entries : List (String × String)} {corpus : Corpus}
    (hcorpus : ofEntries entries = .ok corpus) : corpus.Collects entries := by
  have hfiled := isFiled_of_ofEntries hcorpus
  exact {
    names := fun name ↦ exists_find?_iff_of_ofEntries hcorpus
    templates := fun name template ↦ find?_eq_some_iff_of_ofEntries hcorpus
    listed := fun kind template ↦ hfiled.mem_all_iff
    inOrder := hfiled.pairwise_all
    ofKind := fun kind template ↦ mem_ofKind_iff_mem_all.trans hfiled.mem_all_iff
    ofKind_inOrder := hfiled.pairwise_ofKind
    shared := hfiled.perm_flatMap_ofKind }

/-- A corpus cannot be made of entries exactly when a body in an artifact directory is no template,
and the first such body is the error. Entries elsewhere play no part. Of the others the last of each
name is kept, and the templates are listed in the order of the octets of their names, each once and
under the kind of its first directory. The order of entries with distinct names plays no part. -/
theorem ofEntries_keeps_last_of_each_name (entries : List (String × String)) :
    (∀ fault, ofEntries entries = .error fault ↔ StopsWith entries fault) ∧
    (∀ before name body after, entries = before ++ (name, body) :: after →
      (∀ kind : ArtifactKind, ¬kind.Holds name) →
        ofEntries entries = ofEntries (before ++ after)) ∧
    (∀ corpus, ofEntries entries = .ok corpus → corpus.Collects entries) ∧
    ((entries.map Prod.fst).Nodup → ∀ others, others.Perm entries →
      ∀ corpus, ofEntries others = .ok corpus ↔ ofEntries entries = .ok corpus) := by
  refine ⟨fun fault ↦ ofEntries_eq_error_iff, ?_, fun corpus ↦ collects_of_ofEntries,
    fun hnames others hperm corpus ↦ ofEntries_perm hnames hperm⟩
  rintro before name body after rfl helsewhere
  exact ofEntries_append_cons helsewhere

-- A body that would be replaced is at fault all the same.
example : ofEntries [("libyal/a.c", "$\x7b"), ("libyal/a.c", "")] =
    .error (.malformedTemplate "libyal/a.c" 0 .unterminated) := by
  rfl

end Corpus

end Scaffold
