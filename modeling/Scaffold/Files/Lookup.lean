import Scaffold.Fault
import Scaffold.Files.Tree
import Scaffold.Text.Octets

/-!
# Looking up paths

A path is walked part by part from the root or from the directory one stands in. Links on the way
are followed, a link at the end only when asked for, and no more than `linkLimit` in all. Every
part but the last must be a directory; a slash after the last part makes no exception, so that
`file/` is never found.
-/

set_option autoImplicit false

namespace Scaffold.FileTree

/-- The octets that one name may have. -/
def nameLimit : Nat := 255

/-- The octets that a path may have, with one to end it. -/
def pathLimit : Nat := 4096

/-- The links that may be followed for one path. -/
def linkLimit : Nat := 40

/-- Walks the parts of a path from a location; `jump` walks on where a link leads. -/
def walk (tree : FileTree) (followsLast : Bool)
    (jump : Location → List String → Except SystemError Location) :
    Location → List String → Except SystemError Location
  | here, [] => .ok here
  | here, part :: rest =>
    if part = "" ∨ part = "." then tree.walk followsLast jump here rest
    else if part = ".." then tree.walk followsLast jump here.dropLast rest
    else if part.utf8ByteSize > nameLimit then .error .nameTooLong
    else
      match tree.find? (here ++ [part]) with
      | none => .error .notFound
      | some .directory => tree.walk followsLast jump (here ++ [part]) rest
      | some (.file _ _) =>
        if rest.isEmpty then .ok (here ++ [part]) else .error .notDirectory
      | some (.link target) =>
        if rest.isEmpty && !followsLast then .ok (here ++ [part])
        else jump (if target.isAbsolute then [] else here) (Text.parts '/' target.text ++ rest)

/-- Walks the parts of a path from a location, with so many links left to follow. -/
def walkLinks (tree : FileTree) (followsLast : Bool) :
    Nat → Location → List String → Except SystemError Location
  | 0 => tree.walk followsLast fun _ _ ↦ .error .tooManyLinks
  | left + 1 => tree.walk followsLast (tree.walkLinks followsLast left)

/-- What keeps a text from being a path at all. -/
def pathFault? (path : Path) : Option SystemError :=
  if path.text = "" then some .notFound
  else if path.text.toList.contains '\x00' then some .zeroInName
  else if path.text.utf8ByteSize ≥ pathLimit then some .nameTooLong
  else none

/-- The location of an entry, seen from a directory. -/
def locate (tree : FileTree) (here : Location) (path : Path) (followsLast : Bool) :
    Except SystemError Location :=
  match pathFault? path with
  | some error => .error error
  | none =>
    tree.walkLinks followsLast linkLimit (if path.isAbsolute then [] else here)
      (Text.parts '/' path.text)

/-- The entry that a path leads to, links followed. -/
def entryAt (tree : FileTree) (here : Location) (path : Path) : Except SystemError Entry := do
  let location ← tree.locate here path true
  match tree.find? location with
  | some entry => return entry
  | none => throw .notFound

/-- A path leads to something. -/
def pathExists (tree : FileTree) (here : Location) (path : Path) : Bool :=
  (tree.entryAt here path).toOption.isSome

/-- A path leads to a directory. -/
def isDirectory (tree : FileTree) (here : Location) (path : Path) : Bool :=
  (tree.entryAt here path).toOption == some .directory

/-- The octets of a file. -/
def read (tree : FileTree) (here : Location) (path : Path) : Except SystemError (List UInt8) := do
  match ← tree.entryAt here path with
  | .file octets _ => return octets
  | .directory => throw .isDirectory
  | .link _ => throw .notFound

/-- Octets as text, if they are a text. -/
def textOf (octets : List UInt8) : Except SystemError String :=
  match Text.Utf8.decode? octets with
  | some text => .ok text
  | none => .error .invalidText

/-- The text of a file. -/
def readText (tree : FileTree) (here : Location) (path : Path) : Except SystemError String := do
  textOf (← tree.read here path)

end Scaffold.FileTree
