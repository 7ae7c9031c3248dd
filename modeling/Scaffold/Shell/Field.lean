import Scaffold.Files.Lookup
import Scaffold.Shell.Pattern
import Scaffold.Shell.Utility.Basic

/-!
# Fields

An expanded word is a list of pieces. Pieces are put together to fields: a value that is not quoted
is split at separators (`Piece.fields`), of which blanks count once however many there are, and a
field with open patterns stands for the files that it matches (`filesOf`).
-/

set_option autoImplicit false

namespace Scaffold.Shell

open Text (Octets)

/-- A piece of an expanded word: an octet, which may be of a value that is to be split, the end of
an argument, the mark of a field that counts even when it is empty, which may only do so unless a
value follows, or the place where a value begins. -/
inductive Piece
  | octet (mark : Mark) (isValue : Bool)
  | split (isHard : Bool)
  | present
  | faint
  | border
  deriving DecidableEq, Repr

namespace Piece

/-- The octets of a text as pieces. -/
def ofOctets (isQuoted : Bool) (text : Octets) : List Piece :=
  text.map fun c ↦ octet ⟨c, isQuoted⟩ false

/-- A quoted text. -/
def quoted (text : Octets) : List Piece :=
  present :: ofOctets true text

/-- A value that is not quoted. -/
def ofValue (text : Octets) : List Piece :=
  border :: text.map fun c ↦ octet ⟨c, false⟩ true

/-- A value, quoted or not. -/
def value (isQuoted : Bool) (text : Octets) : List Piece :=
  if isQuoted then quoted text else ofValue text

/-- Pieces that stand for a value. -/
def asValue (pieces : List Piece) : List Piece :=
  let shown := pieces.map fun
    | octet mark isValue => octet mark (isValue || !mark.isQuoted)
    | piece => piece
  if shown.head? matches some (octet _ _) then border :: shown else shown

/-- The marks among pieces, with `joint` between arguments. -/
def marks (joint : Octets) (pieces : List Piece) : List Mark :=
  pieces.flatMap fun
    | octet mark _ => [mark]
    | split _ => joint.map fun c ↦ ⟨c, true⟩
    | _ => []

/-- The octets of pieces, with `joint` between arguments. -/
def text (joint : Octets) (pieces : List Piece) : Octets :=
  (marks joint pieces).map Mark.octet

/-- The separators that are passed over after the end of a field. -/
inductive Passing
  | nothing
  | blanks
  | blanksAndOne
  deriving DecidableEq, Repr

/-- Fields that are being put together, the last one first, the one at work last mark first. -/
structure Fields where
  finished : List (List Mark)
  current : List Mark
  isBegun : Bool
  /-- The field at work is empty, and counts unless a value follows. -/
  isFaint : Bool
  /-- A value follows where a field was faint. -/
  isReplaced : Bool
  passing : Passing
  deriving Repr

namespace Fields

/-- The fields with one more mark. -/
def push (fields : Fields) (mark : Mark) : Fields :=
  { fields with
    current := mark :: fields.current, isBegun := true, isFaint := false, isReplaced := false
    passing := .nothing }

/-- The fields with the one at work finished. -/
def finish (fields : Fields) (passing : Passing) : Fields :=
  ⟨fields.current.reverse :: fields.finished, [], false, false, false, passing⟩

/-- The fields after a separator. A blank at the start of a field is passed over, and so are blanks
after a field and one other separator that follows them. -/
def separate (fields : Fields) (isBlank : Bool) : Fields :=
  match fields.passing with
  | .nothing =>
    if isBlank && !fields.isBegun && !fields.isReplaced then fields
    else fields.finish (if isBlank then .blanksAndOne else .blanks)
  | .blanksAndOne => if isBlank then fields else { fields with passing := .blanks }
  | .blanks => if isBlank then fields else fields.finish .blanks

/-- The fields after one more piece. -/
def step (separators : Octets) (fields : Fields) : Piece → Fields
  | octet mark isValue =>
    if isValue && separators.contains mark.octet then
      fields.separate ([' ', '\t', '\n'].contains mark.octet)
    else fields.push mark
  | split true => fields.finish .nothing
  | split false => fields.separate true
  | present => { fields with isBegun := true, isFaint := false, passing := .nothing }
  | faint => { fields with isBegun := true, isFaint := !fields.isBegun, passing := .nothing }
  | border =>
    { fields with
      isBegun := fields.isBegun && !fields.isFaint
      isReplaced := fields.isFaint
      isFaint := false
      passing := .nothing }

end Fields

/-- The fields that pieces make, where values are split at separators. -/
def fields (separators : Octets) (pieces : List Piece) : List (List Mark) :=
  let fields := pieces.foldl (Fields.step separators) ⟨[], [], false, false, false, .nothing⟩
  (if fields.isBegun then fields.current.reverse :: fields.finished else fields.finished).reverse

end Piece

/-- The parts of a field between slashes. -/
def components (field : List Mark) : List (List Mark) :=
  field.foldr (fun mark parts ↦
    if mark.octet = '/' then [] :: parts
    else
      match parts with
      | [] => [[mark]]
      | part :: others => (mark :: part) :: others) [[]]

/-- The names in a directory that a pattern stands for; a name that begins with a dot only if the
pattern does. -/
def namesLike (tree : FileTree) (here : Location) (directory : Octets) (pattern : List Mark) :
    List Octets :=
  let path : Path := if directory.isEmpty then ⟨"."⟩ else pathOf directory
  match tree.locate here path true with
  | .error _ => []
  | .ok location =>
    let wantsHidden := pattern.head?.any fun mark ↦ mark.octet == '.'
    let names := (tree.namesBelow location).map Octets.ofText
    let names := if wantsHidden then ['.'] :: ['.', '.'] :: names else names
    let steps := Pattern.steps pattern
    names.filter fun name ↦
      (wantsHidden || name.head? != some '.') && Step.matchesAll steps name

/-- Something lies at a path, be it a link that leads nowhere. -/
def isThere (tree : FileTree) (here : Location) (path : Octets) : Bool :=
  match tree.locate here (pathOf path) false with
  | .ok location => (tree.find? location).isSome
  | .error _ => false

/-- The files that the parts of a path stand for, below what is before them; `isSearched` when a
part before had a pattern. -/
def filesBelow (tree : FileTree) (here : Location) :
    (before : Octets) → (isSearched : Bool) → List (List Mark) → List Octets
  | before, isSearched, [] => if isSearched && isThere tree here before then [before] else []
  | before, isSearched, [part] =>
    if Pattern.isOpen part then (namesLike tree here before part).map (before ++ ·)
    else
      let path := before ++ part.map Mark.octet
      if isSearched && isThere tree here path then [path] else []
  | before, isSearched, part :: rest =>
    if Pattern.isOpen part then
      (namesLike tree here before part).flatMap fun name ↦
        if tree.isDirectory here (pathOf (before ++ name)) then
          filesBelow tree here (before ++ name ++ ['/']) true rest
        else []
    else filesBelow tree here (before ++ part.map Mark.octet ++ ['/']) isSearched rest

/-- The files that a field stands for in ascending order, or its text. -/
def filesOf (tree : FileTree) (here : Location) (field : List Mark) : List Octets :=
  let text := field.map Mark.octet
  if !Pattern.isOpen field then [text]
  else
    let found := filesBelow tree here [] false (components field)
    if found.isEmpty then [text]
    else found.mergeSort Octets.isAtMost

end Scaffold.Shell
