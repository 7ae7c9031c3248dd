import Scaffold.Files.Lookup

/-!
# Changing file trees

Making directories (`makeDirectories` makes those on the way too, and keeps those that are there),
renaming, and putting a whole file in place (`writeWhole`): the contents go to a temporary file
beside the destination, which is renamed when it is complete, so the destination has either what it
had or the whole new contents. Each step of it can be refused by the system (`Refusals`); the
temporary file is then taken away.
-/

set_option autoImplicit false

namespace Scaffold

namespace Component

/-- The text of a step, as a part between slashes. -/
def part : Component → String
  | root => ""
  | current => "."
  | parent => ".."
  | named name => name

end Component

namespace Path

/-- The path with these steps. -/
def ofComponents (components : List Component) : Path :=
  match components with
  | [.root] => ⟨"/"⟩
  | components => ⟨Text.joinWith "/" (components.map Component.part)⟩

/-- The steps of the path but the last. -/
def parent (path : Path) : Path :=
  ofComponents path.components.dropLast

/-- The name that the path ends in. -/
def fileName? (path : Path) : Option String :=
  match path.components.getLast? with
  | some (.named name) => some name
  | _ => none

end Path

namespace FileTree

/-- What keeps new entries out of a directory: those of `/proc`, `/sys` and `/dev/pts` are the
system's. -/
def seal? : Location → Option SystemError
  | "proc" :: _ => some .notFound
  | "sys" :: _ => some .notPermitted
  | "dev" :: "pts" :: _ => some .notPermitted
  | _ => none

/-- The location of the directory that a path lies in. -/
def locateParent (tree : FileTree) (here : Location) (path : Path) :
    Except SystemError Location :=
  if path.parent.text = "" then .ok here else tree.locate here path.parent true

/-- The location of a new entry: its directory is there, and the path ends in a name. -/
def locateNew (tree : FileTree) (here : Location) (path : Path) :
    Except SystemError Location := do
  if let some error := pathFault? path then throw error
  let directory ← tree.locateParent here path
  if !tree.hasDirectory directory then throw .notDirectory
  match path.fileName? with
  | none => throw .exists
  | some name =>
    if name.utf8ByteSize > nameLimit then throw .nameTooLong
    if (tree.find? (directory ++ [name])).isNone then
      if let some error := seal? directory then throw error
    return directory ++ [name]

/-- The location that is written to under a path: the file that it leads to, or the place of a new
one. A link that leads nowhere gives the place that it names; fewer than `left` of them are
followed. -/
def locateWritable (tree : FileTree) :
    (left : Nat) → (here : Location) → Path → Except SystemError Location
  | 0, _, _ => .error .tooManyLinks
  | left + 1, here, path =>
    match tree.locate here path true with
    | .error .notFound => do
      if path.text.endsWith "/" then throw .isDirectory
      let location ←
        match tree.locateNew here path with
        | .error .notPermitted => throw .denied
        | outcome => outcome
      match tree.find? location with
      | some (.link target) => tree.locateWritable left location.dropLast target
      | _ => return location
    | outcome => outcome

/-- The tree with a new directory. -/
def makeDirectory (tree : FileTree) (here : Location) (path : Path) :
    Except SystemError FileTree := do
  let location ← tree.locateNew here path
  match tree.find? location with
  | some _ => throw .exists
  | none => return tree.put location .directory

/-- The steps of putting a whole file in place. -/
inductive WriteStep
  | makeDirectory (path : Path)
  | makeTemporary
  | fill
  | flush
  | rename
  deriving DecidableEq, Repr

/-- What the system refuses to do, and why. -/
abbrev Refusals := WriteStep → Option SystemError

/-- The system refuses nothing. -/
def Refusals.none : Refusals :=
  fun _ ↦ Option.none

/-- The step is not refused. -/
def Refusals.check (refusals : Refusals) (step : WriteStep) : Except SystemError Unit :=
  match refusals step with
  | some error => .error error
  | Option.none => .ok ()

/-- Makes a directory, or finds it there. -/
def ensureDirectory (tree : FileTree) (refusals : Refusals) (here : Location) (path : Path) :
    Except SystemError Unit × FileTree :=
  let made := do
    refusals.check (.makeDirectory path)
    tree.makeDirectory here path
  match made with
  | .ok tree => (.ok (), tree)
  | .error error => (if tree.isDirectory here path then .ok () else .error error, tree)

/-- Makes the directory with these steps, the last one first, and those on the way to it that are
missing. -/
def makeSteps (tree : FileTree) (refusals : Refusals) (here : Location) :
    List Component → Except SystemError Unit × FileTree
  | [] => (.ok (), tree)
  | last :: before =>
    let path := Path.ofComponents (last :: before).reverse
    match tree.ensureDirectory refusals here path with
    | (.error .notFound, _) =>
      match tree.makeSteps refusals here before with
      | (.ok (), tree) => tree.ensureDirectory refusals here path
      | (.error error, tree) => (.error error, tree)
    | (outcome, tree) => (outcome, tree)

/-- Makes a directory and those on the way to it that are missing. What was made stays when a later
one cannot be. -/
def makeDirectories (tree : FileTree) (refusals : Refusals) (here : Location) (path : Path) :
    Except SystemError Unit × FileTree :=
  tree.makeSteps refusals here path.components.reverse

/-- Moves a file, in place of what is not a directory. A destination that ends in a slash names no
file, and one that ends in a dot nothing that could be replaced. -/
def rename (tree : FileTree) (source : Location) (here : Location) (destination : Path) :
    Except SystemError FileTree := do
  if (Text.parts '/' destination.text).getLast? = some "." then
    let _ ← tree.locate here destination true
    throw .busy
  let target ← tree.locateNew here destination
  if (Text.parts '/' destination.text).getLast? = some "" then throw .notDirectory
  match tree.find? source, tree.find? target with
  | none, _ => throw .notFound
  | some _, some .directory => throw .isDirectory
  | some entry, _ => return (tree.erase source).put target entry

/-- Moves a complete temporary file to its destination. -/
def settle (tree : FileTree) (refusals : Refusals) (here : Location) (path : Path)
    (temporary : Location) : Except SystemError FileTree := do
  refusals.check .flush
  refusals.check .rename
  tree.rename temporary here path

/-- Fills a temporary file and moves it to its destination, or takes it away again. -/
def fillAndSettle (tree : FileTree) (refusals : Refusals) (here : Location) (path : Path)
    (octets : List UInt8) (temporary : Location) : Except SystemError Unit × FileTree :=
  let opened := tree.put temporary (.file [] false)
  match refusals.check .fill with
  | .error error => (.error error, opened.erase temporary)
  | .ok _ =>
    let filled := opened.put temporary (.file octets false)
    match filled.settle refusals here path temporary with
    | .ok settled => (.ok (), settled)
    | .error error => (.error error, filled.erase temporary)

/-- The location of a new temporary file beside a destination. -/
def locateTemporary (tree : FileTree) (refusals : Refusals) (here : Location) (path : Path) :
    Except SystemError Location := do
  let directory ← tree.locateParent here path
  refusals.check .makeTemporary
  match seal? directory with
  | some .notPermitted => throw .denied
  | some error => throw error
  | none => return directory ++ [tree.freshName]

/-- Puts a whole file in place, in a directory that is made if it is missing. -/
def writeWhole (tree : FileTree) (refusals : Refusals) (here : Location) (path : Path)
    (octets : List UInt8) : Except SystemError Unit × FileTree :=
  match tree.makeDirectories refusals here path.parent with
  | (.error error, tree) => (.error error, tree)
  | (.ok _, tree) =>
    match tree.locateTemporary refusals here path with
    | .error error => (.error error, tree)
    | .ok temporary => tree.fillAndSettle refusals here path octets temporary

end FileTree

end Scaffold
