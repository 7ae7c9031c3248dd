import Scaffold.Text.Cut
import Scaffold.Path
import Scaffold.Token.UpperCase

/-!
# Dependencies

A dependency is an external library with a minimum version. It may be named with or without its
leading `lib`: every name derived from it starts from `linkName`, which has none. Its override says
how it is to be looked for; any text is an override (`Override.parse`), and one that is no keyword
is the path of an installation.
-/

set_option autoImplicit false

namespace Scaffold

/-- How a dependency is to be looked for. -/
inductive Override
  | auto
  | required
  | disabled
  | path (place : Path)
  deriving DecidableEq, Repr

namespace Override

/-- The override that a text stands for, blanks at its ends aside. -/
def parse (text : String) : Override :=
  let trimmed := Text.trim text
  if ["", "auto", "auto-detect"].contains trimmed then auto
  else if ["yes", "required"].contains trimmed then required
  else if ["disabled", "no"].contains trimmed then disabled
  else path ⟨trimmed⟩

/-- The text of an override. -/
def text : Override → String
  | auto => "auto"
  | required => "yes"
  | disabled => "disabled"
  | path place => place.text

end Override

/-- An external library. -/
structure Dependency where
  name : String
  minVersion : String
  headerName : Option String
  symbolName : Option String
  override : Override
  localPath : Option String
  deriving DecidableEq, Repr

namespace Dependency

/-- A dependency with nothing but a name and a minimum version given. -/
def new (name minVersion : String) : Dependency :=
  ⟨name, minVersion, none, none, .auto, none⟩

/-- The dependency with another override. -/
def withOverride (dependency : Dependency) (override : Override) : Dependency :=
  { dependency with override }

/-- The dependency with a bundled copy at a path. -/
def withLocalPath (dependency : Dependency) (path : String) : Dependency :=
  { dependency with localPath := some path }

/-- The name that the linker knows the library by. -/
def linkName (dependency : Dependency) : String :=
  Text.dropStem "lib" dependency.name

/-- The name of the library, with its leading `lib`. -/
def libraryId (dependency : Dependency) : String :=
  "lib" ++ dependency.linkName

/-- The header that shows that the library is installed. -/
def header (dependency : Dependency) : String :=
  dependency.headerName.getD (dependency.libraryId ++ ".h")

/-- The symbol that shows that the library can be linked. -/
def symbol (dependency : Dependency) : String :=
  dependency.symbolName.getD (dependency.libraryId ++ "_get_version")

/-- The `localPath` that stands for no bundled copy. -/
def noLocalCopy : String := "none"

/-- Where the bundled copy lies, if there may be one. -/
def localCopy? (dependency : Dependency) : Option Path :=
  match dependency.localPath with
  | some path => if path = noLocalCopy then none else some ⟨path⟩
  | none => some ⟨"../" ++ dependency.libraryId⟩

/-- The macro that tells whether the library is there. -/
def haveDefine (dependency : Dependency) : String :=
  "HAVE_" ++ Token.upperCase dependency.libraryId

/-- The macro that tells that the bundled copy is used. -/
def haveLocalDefine (dependency : Dependency) : String :=
  "HAVE_LOCAL_" ++ Token.upperCase dependency.libraryId

end Dependency

end Scaffold
