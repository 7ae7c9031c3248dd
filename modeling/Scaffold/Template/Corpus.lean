import Scaffold.Artifact.Kind
import Scaffold.Template.Builtin

/-!
# Template corpora

A corpus holds the templates of the four artifact directories under their names. `ofEntries`
reads the entries of those directories from left to right and passes over all others, so an entry
elsewhere never matters; a later entry replaces an earlier one of the same name.
-/

set_option autoImplicit false

namespace Scaffold

/-- Templates under their names. -/
structure Corpus where
  templates : Table Template
  deriving DecidableEq

namespace Corpus

/-- The corpus without templates. -/
def empty : Corpus :=
  ⟨Table.empty⟩

/-- Adds entries from left to right up to the first malformed one. -/
def addEntries (corpus : Corpus) : List (String × String) → Except Fault Corpus
  | [] => .ok corpus
  | (name, body) :: rest =>
    match ArtifactKind.ofName? name with
    | none => corpus.addEntries rest
    | some _ => do
      addEntries ⟨corpus.templates.insert name (← Template.parse name body)⟩ rest

/-- The corpus of names and bodies. -/
def ofEntries (entries : List (String × String)) : Except Fault Corpus :=
  empty.addEntries entries

/-- The corpus of the built-in templates. -/
def builtin : Except Fault Corpus :=
  ofEntries Template.Builtin.entries

/-- The template of a name. -/
def find? (corpus : Corpus) (name : String) : Option Template :=
  corpus.templates.find? name

/-- Every template in name order, with its kind. -/
def all (corpus : Corpus) : List (ArtifactKind × Template) :=
  corpus.templates.entries.filterMap fun (name, template) ↦
    (ArtifactKind.ofName? name).map fun kind ↦ (kind, template)

/-- The templates of a kind, in name order. -/
def ofKind (corpus : Corpus) (kind : ArtifactKind) : List Template :=
  (corpus.all.filter fun entry ↦ entry.1 == kind).map (·.2)

/-- The sections of a type test, in output order. -/
def sectionNames : List String :=
  ["header", "initialize", "free", "clear_with_free_function", "main"].map fun part ↦
    ArtifactKind.testSource.directory ++ "/" ++ part ++ ".c"

/-- The templates of those names, or the first name without one. -/
def findAll (corpus : Corpus) : List String → Except Fault (List Template)
  | [] => .ok []
  | name :: rest =>
    match corpus.find? name with
    | none => .error (.missingTemplate name)
    | some template => (corpus.findAll rest).map (template :: ·)

/-- The sections that make up one type test; each of them is needed. -/
def typeTestSections (corpus : Corpus) : Except Fault (List Template) :=
  corpus.findAll sectionNames

end Corpus

end Scaffold
