/-!
# Records

The values that a stored description can hold, as far as its readers tell them apart. A reader sees
one level of a value at a time (`Shape`), and looks at a part only when it needs it: values of any
type with `Stored.shape` can be read. `Value` is such a type, which holds its parts.

A scalar is always readable as its text. Whether it stands for an absent value depends on how it was
written (`Form`).
-/

set_option autoImplicit false

namespace Scaffold

/-- How a scalar was written: quoted, plain, or plain with an explicit tag. -/
inductive Form
  | quoted
  | plain
  | tagged (tag : String)
  deriving DecidableEq, Repr

/-- A stored value with parts of type `ν`. -/
inductive Shape (ν : Type)
  | null
  | scalar (text : String) (form : Form)
  | list (items : List ν)
  | fields (entries : List (String × ν))
  | other

namespace Shape

variable {ν : Type}

/-- The tag of an absent value. -/
def nullTag : String := "tag:yaml.org,2002:null"

/-- The texts that stand for an absent value. -/
def nullTexts : List String :=
  ["~", "null", "Null", "NULL"]

/-- The value is left out: null, or a plain scalar that is empty or reads as null. -/
def isAbsent : Shape ν → Bool
  | null => true
  | scalar text .plain => text == "" || nullTexts.contains text
  | scalar text (.tagged tag) => tag == nullTag && nullTexts.contains text
  | _ => false

/-- The value is tagged as null. -/
def isTaggedNull : Shape ν → Bool
  | scalar _ (.tagged tag) => tag == nullTag
  | _ => false

/-- The value is a plain scalar without text, which stands for an empty collection. -/
def isEmptyPlain : Shape ν → Bool
  | scalar text form => text == "" && form != .quoted
  | _ => false

end Shape

/-- Stored values of a type: each has a shape, with parts of the same type. -/
class Stored (ν : Type) where
  shape : ν → Shape ν

/-- The entries of a record. -/
abbrev Entries (ν : Type) := List (String × ν)

namespace Stored

variable {ν α : Type} [Stored ν]

/-- The text of a scalar, however it was written. -/
def text? (value : ν) : Option String :=
  match shape value with
  | .scalar text _ => some text
  | _ => none

/-- Reads a value that may be left out. A tag that claims null for another text is refused. -/
def optional? (read : ν → Option α) (value : ν) : Option (Option α) :=
  if (shape value).isAbsent then some none
  else if (shape value).isTaggedNull then none
  else (read value).map some

/-- The text of a scalar, or none when the value is left out. -/
def optionalText? (value : ν) : Option (Option String) :=
  optional? text? value

/-- The entries of a record. -/
def entries? (value : ν) : Option (Entries ν) :=
  match shape value with
  | .fields entries => some entries
  | shape => if shape.isEmptyPlain then some [] else none

/-- The items of a list, each of which `read` accepts. -/
def items? (read : ν → Option α) (value : ν) : Option (List α) :=
  match shape value with
  | .list items => items.mapM read
  | shape => if shape.isEmptyPlain then some [] else none

end Stored

namespace Entries

variable {ν α : Type}

/-- The values stored under a name, in order. -/
def all (entries : Entries ν) (name : String) : List ν :=
  (entries.filter fun entry ↦ entry.1 == name).map (·.2)

/-- Reads the value stored under a name; a name without a value has the default if there is one, and
a name with two is refused. -/
def field? (entries : Entries ν) (name : String) (read : ν → Option α) (default : Option α) :
    Option α :=
  match entries.all name with
  | [] => default
  | [value] => read value
  | _ => none

end Entries

/-- A stored value that holds its parts. -/
inductive Value
  | null
  | scalar (text : String) (form : Form)
  | list (items : List Value)
  | fields (entries : List (String × Value))
  | other
  deriving Repr

namespace Value

instance : Inhabited Value :=
  ⟨null⟩

instance : Stored Value where
  shape
    | null => .null
    | scalar text form => .scalar text form
    | list items => .list items
    | fields entries => .fields entries
    | other => .other

end Value

end Scaffold
