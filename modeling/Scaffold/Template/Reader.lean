import Scaffold.Fault
import Scaffold.Table

/-!
# Templates

A template is a list of segments: literal text and placeholders. `Segment.Normal` says when such a
list is the reading of a body, and `Segment.print` writes the body of a list of segments.

In a body `$$` is a dollar, a dollar with an opening brace begins a placeholder that ends at the
next closing brace, and every other character is itself. `readItems` reads a body from left to right
into characters and placeholders, or finds the first malformed placeholder with the byte offset of
its dollar; `segmentsOf` joins neighbouring characters into literals.
-/

set_option autoImplicit false

namespace Scaffold

/-- One piece of a template. -/
inductive Segment
  | literal (text : String)
  | placeholder (token : String)
  deriving DecidableEq, Repr

/-- A named list of segments. -/
structure Template where
  name : String
  segments : List Segment
  deriving DecidableEq, Repr

namespace Segment

/-- A character that a token name may begin with. -/
def isNameStart (c : Char) : Bool :=
  c.isAlpha || c == '_'

/-- A character that a token name may hold. -/
def isNameChar (c : Char) : Bool :=
  c.isAlphanum || c == '_'

/-- A token name: a letter or an underscore, then letters, digits and underscores. -/
def isTokenName : List Char → Bool
  | [] => false
  | c :: rest => isNameStart c && rest.all isNameChar

/-- The characters with each dollar doubled. -/
def doubleDollars (cs : List Char) : List Char :=
  cs.flatMap fun c ↦ if c = '$' then ['$', '$'] else [c]

/-- The written form of a segment. -/
def printChars : Segment → List Char
  | literal text => doubleDollars text.toList
  | placeholder token => '$' :: '{' :: token.toList ++ ['}']

/-- The body that a list of segments is written as. -/
def print (segments : List Segment) : String :=
  String.ofList (segments.flatMap printChars)

/-- The placeholder of a segment. -/
def token? : Segment → Option String
  | literal _ => none
  | placeholder token => some token

/-- The segments have no empty literal, no two literals in a row, and token names in
placeholders. -/
def Normal : List Segment → Prop
  | [] => True
  | placeholder token :: rest => isTokenName token.toList ∧ Normal rest
  | [literal text] => text ≠ ""
  | literal _ :: literal _ :: _ => False
  | literal text :: placeholder token :: rest =>
    text ≠ "" ∧ isTokenName token.toList ∧ Normal rest

end Segment

end Scaffold

namespace Scaffold.Template

/-- What a body holds: characters and placeholders. -/
inductive Item
  | char (c : Char)
  | placeholder (token : String)
  deriving DecidableEq, Repr

/-- Where a reader stands: in text, after a dollar, or inside a placeholder whose name so far is
given in reverse. The dollar stands at the byte offset `start`. -/
inductive Place
  | text
  | dollar (start : Nat)
  | name (start : Nat) (reversed : List Char)

/-- Reads the rest of a body that begins at the byte `offset`. -/
def readItems : Place → Nat → List Char → Except (Nat × Malformation) (List Item)
  | .text, _, [] => .ok []
  | .dollar _, _, [] => .ok [.char '$']
  | .name start _, _, [] => .error (start, .unterminated)
  | .text, offset, c :: rest =>
    if c = '$' then readItems (.dollar offset) (offset + c.utf8Size) rest
    else (readItems .text (offset + c.utf8Size) rest).map (.char c :: ·)
  | .dollar start, offset, c :: rest =>
    if c = '$' then (readItems .text (offset + c.utf8Size) rest).map (.char '$' :: ·)
    else if c = '{' then readItems (.name start []) (offset + c.utf8Size) rest
    else (readItems .text (offset + c.utf8Size) rest).map fun items ↦
      .char '$' :: .char c :: items
  | .name start reversed, offset, c :: rest =>
    if c = '}' then
      let name := reversed.reverse
      if Segment.isTokenName name then
        (readItems .text (offset + c.utf8Size) rest).map (.placeholder (String.ofList name) :: ·)
      else .error (start, .invalidName (String.ofList name))
    else readItems (.name start (c :: reversed)) (offset + c.utf8Size) rest

/-- Adds the literal made of pending characters, given in reverse, unless there are none. -/
def flush (reversed : List Char) (segments : List Segment) : List Segment :=
  if reversed = [] then segments
  else .literal (String.ofList reversed.reverse) :: segments

/-- The segments of a list of items after pending characters, given in reverse. -/
def segmentsAfter : List Char → List Item → List Segment
  | pending, [] => flush pending []
  | pending, .char c :: rest => segmentsAfter (c :: pending) rest
  | pending, .placeholder token :: rest =>
    flush pending (.placeholder token :: segmentsAfter [] rest)

/-- The segments of a list of items: maximal runs of characters, and placeholders. -/
def segmentsOf (items : List Item) : List Segment :=
  segmentsAfter [] items

/-- Reads the body of a template. -/
def parse (name body : String) : Except Fault Template :=
  match readItems .text 0 body.toList with
  | .ok items => .ok ⟨name, segmentsOf items⟩
  | .error (offset, reason) => .error (.malformedTemplate name offset reason)

/-- The tokens that the template refers to, in text order. -/
def tokens (template : Template) : List String :=
  template.segments.filterMap Segment.token?

/-- The tokens that the template refers to, in name order and once each. -/
def placeholders (template : Template) : List String :=
  (Table.ofList (template.tokens.map fun token ↦ (token, ()))).names

end Scaffold.Template
