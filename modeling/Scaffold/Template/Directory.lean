import Scaffold.Files.Lookup
import Scaffold.Template.Corpus

/-!
# Corpora on disk

`Corpus.ofDirectory` reads the files below a directory, in the order of their names, directory by
directory. Links below the directory are not followed, and what lies under a name that begins with
a dot is passed over; every other file must be readable as text, wherever it lies.
-/

set_option autoImplicit false

namespace Scaffold

/-- An error of loading a corpus. -/
inductive CorpusError
  | noDirectory (path : Path)
  | unreadable (path : Path) (cause : SystemError)
  | faulty (fault : Fault)
  deriving DecidableEq, Repr

namespace CorpusError

/-- The error as it is shown, its cause aside. -/
def message : CorpusError → String
  | noDirectory path => "Template directory not found: " ++ path.text
  | unreadable path _ => "Failed to read " ++ path.text
  | faulty fault => fault.message

/-- The text of the cause. -/
def cause? : CorpusError → Option String
  | noDirectory _ => none
  | unreadable _ cause => some cause.message
  | faulty _ => none

end CorpusError

namespace FileTree

/-- The order of locations: name by name, a directory before what lies below it. -/
def locationOrder : Location → Location → Ordering :=
  List.compareLex compare

/-- The files below a location with the names that lead there from it, directory by directory. -/
def filesBelow (tree : FileTree) (location : Location) : List (Location × List UInt8) :=
  (tree.locations.filterMap fun place ↦
    match location.isPrefixOf? place, tree.find? place with
    | some names, some (.file octets _) => some (names, octets)
    | _, _ => none).mergeSort
      fun first second ↦ locationOrder first.1 second.1 != .gt

end FileTree

namespace Corpus

/-- The name is one that is passed over. -/
def isHidden (name : String) : Bool :=
  name.toList.head? == some '.'

/-- Reads the files with these names below a directory, up to the first that is no text. -/
def readEntries (directory : Path) :
    List (Location × List UInt8) → Except CorpusError (List (String × String))
  | [] => .ok []
  | (names, octets) :: rest =>
    if names.any isHidden then readEntries directory rest
    else
      match FileTree.textOf octets with
      | .ok body => (readEntries directory rest).map ((Text.joinWith "/" names, body) :: ·)
      | .error cause => .error (.unreadable (names.foldl (·.join ⟨·⟩) directory) cause)

/-- The corpus below a directory. -/
def ofDirectory (tree : FileTree) (here : Location) (directory : Path) :
    Except CorpusError Corpus :=
  match tree.locate here directory true with
  | .error _ => .error (.noDirectory directory)
  | .ok location =>
    if tree.hasDirectory location then do
      let entries ← readEntries directory (tree.filesBelow location)
      (ofEntries entries).mapError .faulty
    else .error (.noDirectory directory)

end Corpus

end Scaffold
