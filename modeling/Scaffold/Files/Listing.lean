import Scaffold.Files.Change

/-!
# Storing and listing files

`store` puts an entry at a path, with the directories on the way. `listing` shows every file below
a directory with its text, links followed, in the order of the paths; an entry that cannot be read
is shown without text.

An archive is a list of lines: a line that names an entry, and after the name of a file its lines,
each behind a bar, or behind a backslash if it is the last one and has no end. `ofLines` reads an
archive, and `linesOf` writes a file.
-/

set_option autoImplicit false

namespace Scaffold.FileTree

/-- Puts an entry at a path, with the directories on the way; the tree is as before where that is
not possible. -/
def store (tree : FileTree) (here : Location) (path : Path) (entry : Entry) : FileTree :=
  let (_, tree) := tree.makeDirectories .none here path.parent
  match entry with
  | .directory => (tree.makeDirectories .none here path).2
  | .file _ _ =>
    match tree.locateWritable linkLimit here path with
    | .ok location => if tree.hasDirectory location then tree else tree.put location entry
    | .error _ => tree
  | .link _ =>
    match tree.locateNew here path with
    | .ok location => if (tree.find? location).isSome then tree else tree.put location entry
    | .error _ => tree

/-- The files below a directory, each with the names that lead to it; `above` are the directories
that a link must not lead back into. -/
def filesUnder (tree : FileTree) :
    Nat → (above : List Location) → (names : List String) → Location → List (List String × String)
  | 0, _, names, _ => [(names, "")]
  | depth + 1, above, names, directory =>
    (tree.namesBelow directory).flatMap fun name ↦
      let names := names ++ [name]
      match tree.locate directory ⟨name⟩ true with
      | .error _ => [(names, "")]
      | .ok location =>
        match tree.find? location with
        | some .directory =>
          if above.contains location then [(names, "")]
          else tree.filesUnder depth (location :: above) names location
        | some (.file octets _) => [(names, Text.Utf8.decodeLossy octets)]
        | _ => [(names, "")]

/-- The files below a directory with their texts, in the order of their paths. -/
def listing (tree : FileTree) (directory : Location) : List (String × String) :=
  ((tree.filesUnder (tree.entries.length + 1) [directory] [] directory).map
    fun (names, text) ↦ (Text.joinWith "/" names, text)).mergeSort
      fun first second ↦ first.1 ≤ second.1

end Scaffold.FileTree

namespace Scaffold.Archive

/-- The text that a line of a file stands for. -/
def contents? (line : String) : Option String :=
  match line.toList with
  | '|' :: rest => some (String.ofList rest ++ "\n")
  | '\\' :: rest => some (String.ofList rest)
  | _ => none

/-- The entry that a line names, with the text of a file. -/
def named? (line text : String) : Option (Path × Entry) :=
  match Text.cutAt? ' ' line with
  | some ("directory", path) => some (⟨path⟩, .directory)
  | some ("file", path) => some (⟨path⟩, .file (Text.Utf8.encode text) false)
  | some ("program", path) => some (⟨path⟩, .file (Text.Utf8.encode text) true)
  | some ("link", rest) =>
    (Text.cutAt? ' ' rest).map fun (target, path) ↦ (⟨path⟩, .link ⟨target⟩)
  | _ => none

/-- The entries of an archive, and the text before the first of them. -/
def entries (lines : List String) : List (Path × Entry) × String :=
  lines.foldr
    (fun line (entries, text) ↦
      match contents? line with
      | some part => (entries, part ++ text)
      | none => ((named? line text).toList ++ entries, ""))
    ([], "")

/-- The tree with the entries of an archive below a directory. -/
def ofLines (tree : FileTree) (here : Location) (lines : List String) : FileTree :=
  (entries lines).1.foldl (fun tree (path, entry) ↦ tree.store here path entry) tree

/-- The lines of a text, each in the form it has in an archive. -/
def textLines (text : String) : List String :=
  match (Text.parts '\n' text).reverse with
  | [] => []
  | last :: before =>
    before.reverse.map ("|" ++ ·) ++ (if last = "" then [] else ["\\" ++ last])

/-- A file in the form it has in an archive. -/
def linesOf (path text : String) : List String :=
  ("file " ++ path) :: textLines text

/-- The files below a directory that are not as they were, as an archive. -/
def changes (before after : FileTree) (here : Location) : List String :=
  let known := before.listing here
  ((after.listing here).filter fun file ↦ !known.contains file).flatMap fun (path, text) ↦
    linesOf path text

end Scaffold.Archive
