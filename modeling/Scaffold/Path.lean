import Scaffold.Text.Cut

/-!
# Paths

A path is kept as the text it was given as, and means the list of its components: repeated slashes
and dots inside the path carry no meaning, `..` is kept. Two paths are the same place when their
components are equal (`Path.same`), and paths are ordered by components (`Path.order`): the root,
then a leading dot, then a parent step, then names code point by code point.
-/

set_option autoImplicit false

namespace Scaffold

/-- One step of a path. -/
inductive Component
  | root
  | current
  | parent
  | named (name : String)
  deriving DecidableEq, Repr

/-- A path, as text. -/
structure Path where
  text : String
  deriving DecidableEq, Repr

namespace Component

/-- The rank of the kind of a component. -/
def rank : Component → Nat
  | root => 0
  | current => 1
  | parent => 2
  | named _ => 3

/-- The name of a component, empty for the steps without one. -/
def label : Component → String
  | named name => name
  | _ => ""

/-- The order of components: by rank, then by name. -/
def order : Component → Component → Ordering :=
  compareLex (compareOn rank) (compareOn label)

/-- The step that a part between slashes stands for inside a path. -/
def ofPart? (part : String) : Option Component :=
  if part = "" ∨ part = "." then none
  else if part = ".." then some parent
  else some (named part)

end Component

namespace Path

/-- The path starts at the root. -/
def isAbsolute (path : Path) : Bool :=
  path.text.toList.head? == some '/'

/-- The steps of the path. -/
def components (path : Path) : List Component :=
  let steps := (Text.parts '/' path.text).filterMap Component.ofPart?
  if path.isAbsolute then .root :: steps
  else if (Text.parts '/' path.text).head? = some "." then .current :: steps
  else steps

/-- The paths have the same components. -/
def same (first second : Path) : Bool :=
  first.components == second.components

/-- The order of paths by components. -/
def order (first second : Path) : Ordering :=
  List.compareLex Component.order first.components second.components

/-- The first path is not after the second. -/
def atMost (first second : Path) : Bool :=
  first.order second != .gt

/-- The path of `child` seen from `base`: an absolute `child` stands for itself, and otherwise
there is one slash between the two unless `base` is empty or ends with one. -/
def join (base child : Path) : Path :=
  if child.isAbsolute ∨ base.text = "" then child
  else if base.text.toList.getLast? = some '/' then ⟨base.text ++ child.text⟩
  else ⟨base.text ++ "/" ++ child.text⟩

end Path

end Scaffold
