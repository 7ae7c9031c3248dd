import Scaffold.Shell.Search.Dialect
import Scaffold.Shell.Utility.Basic

/-!
# Lines that are searched for

A `LineSearch` selects the lines in which an expression stands for a part: any part, a part between
the ends of words, or the whole line. `LineSearch.parts` are the parts themselves. A `LineReport`
says what stands in front of a line that is found, which lines around it are shown as well, and in
which colours. `LineReport.lines` goes through the lines of one file.
-/

set_option autoImplicit false

namespace Scaffold.Shell

open Text (Octets)

/-- What lines are searched for, and how. -/
structure LineSearch where
  /-- What stands for a part; nothing if no expression is given. -/
  sought : Option Sought
  wholeWords : Bool
  wholeLines : Bool
  /-- The lines are selected in which nothing is found. -/
  isOpposite : Bool

namespace LineSearch

/-- The part from one place to another one counts as a match. -/
def allows (search : LineSearch) (start finish : Place) : Bool :=
  (!search.wholeLines || (start.index == 0 && finish.rest.isEmpty)) &&
    (!search.wholeWords ||
      (!start.before.any Expression.isWordOctet && !finish.after.any Expression.isWordOctet))

/-- The match that begins at a place. -/
def matchAt (search : LineSearch) (sought : Sought) (place : Place) : Option Match :=
  if search.wholeWords || search.wholeLines then
    let ends := (sought.endsAt place).filter fun found ↦
      search.allows (found.start.getD place) found.place
    (sought.choose ends).map fun found ↦ ⟨found.start.getD place, found.place, found.groups⟩
  else sought.matchAt place

/-- The first match from a place on. -/
def matchFrom (search : LineSearch) (sought : Sought) : (left : Nat) → Place → Option Match
  | 0, _ => none
  | left + 1, place =>
    match search.matchAt sought place with
    | some found => some found
    | none =>
      if search.wholeLines then none
      else place.next?.bind (matchFrom search sought left)

/-- Something is found in a line. -/
def isIn (search : LineSearch) (line : Octets) : Bool :=
  search.sought.any fun sought ↦
    (search.matchFrom sought (line.length + 1) (Place.start line)).isSome

/-- The line is one of those that are searched for. -/
def selects (search : LineSearch) (line : Octets) : Bool :=
  search.isIn line != search.isOpposite

/-- The matches from a place on that are not empty. -/
def matchesFrom (search : LineSearch) (sought : Sought) : (left : Nat) → Place → List Match
  | 0, _ => []
  | left + 1, place =>
    match search.matchFrom sought (place.rest.length + 1) place with
    | none => []
    | some found =>
      if found.finish.index ≤ place.index ∨ found.start.index = found.finish.index then
        (found.start.next?.map (matchesFrom search sought left)).getD []
      else found :: matchesFrom search sought left found.finish

/-- The matches in a line that are not empty. -/
def parts (search : LineSearch) (line : Octets) : List Match :=
  (search.sought.map fun sought ↦
    search.matchesFrom sought (line.length + 1) (Place.start line)).getD []

end LineSearch

end Scaffold.Shell

namespace Scaffold.Shell

open Text (Octets)

/-! ### Colours -/

/-- The colours of what is shown, as the terminal is told about them. -/
structure Palette where
  selectedLine : Octets
  contextLine : Octets
  selectedMatch : Octets
  contextMatch : Octets
  name : Octets
  number : Octets
  offset : Octets
  mark : Octets
  /-- Where lines without a match are selected, the colours of lines change places. -/
  isReversed : Bool
  /-- The rest of the line is cleared with each change of colour. -/
  clears : Bool

namespace Palette

/-- The usual colours. -/
def usual : Palette where
  selectedLine := []
  contextLine := []
  selectedMatch := "01;31".toList
  contextMatch := "01;31".toList
  name := "35".toList
  number := "32".toList
  offset := "32".toList
  mark := "36".toList
  isReversed := false
  clears := true

/-- Sets a colour by the letters that stand for it. -/
def set (palette : Palette) (name : String) (value : Option Octets) : Palette :=
  match name, value with
  | "mt", some value => { palette with selectedMatch := value, contextMatch := value }
  | "ms", some value => { palette with selectedMatch := value }
  | "mc", some value => { palette with contextMatch := value }
  | "sl", some value => { palette with selectedLine := value }
  | "cx", some value => { palette with contextLine := value }
  | "fn", some value => { palette with name := value }
  | "ln", some value => { palette with number := value }
  | "bn", some value => { palette with offset := value }
  | "se", some value => { palette with mark := value }
  | "rv", _ => { palette with isReversed := true }
  | "ne", _ => { palette with clears := false }
  | _, _ => palette

/-- The palette with the colours of a text, up to the first of them that is none. -/
def read (palette : Palette) (text : Octets) : Palette :=
  let (palette, _) := (Text.pieces (· == ':') text).foldl (fun (palette, isOver) piece ↦
    if isOver then (palette, true)
    else
      let name := piece.takeWhile (· != '=')
      let value? := if piece.contains '=' then some (piece.drop (name.length + 1)) else none
      let isColour := fun (value : Octets) ↦ value.all fun c ↦ c == ';' || c.isDigit
      if value?.all isColour then (palette.set (String.ofList name) value?, false)
      else (palette, true)) (palette, false)
  palette

/-- What starts a colour. -/
def start (palette : Palette) (colour : Octets) : Octets :=
  "\x1b[".toList ++ colour ++ ['m'] ++ (if palette.clears then "\x1b[K".toList else [])

/-- A text in a colour, if there is one. -/
def paint (palette : Palette) (colour text : Octets) : Octets :=
  if colour.isEmpty then text else palette.start colour ++ text ++ palette.start []

end Palette

/-! ### Lines -/

/-- A line of a file, with its number, and the octets before it. -/
structure NumberedLine where
  text : Octets
  number : Nat
  offset : Nat

/-- What is shown of the lines that are found. -/
structure LineReport where
  search : LineSearch
  showsNames : Bool
  showsNumbers : Bool
  showsOffsets : Bool
  /-- Only the parts that match are shown. -/
  showsParts : Bool
  hasTab : Bool
  /-- A name ends with a null octet. -/
  endsNames : Bool
  /-- What ends a line. -/
  ending : Char
  before : Nat
  after : Nat
  /-- What is shown between lines that do not follow each other. -/
  gap : Option Octets
  most : Option Nat
  palette : Option Palette

namespace LineReport

/-- A text in one of the colours, if there are any. -/
def painted (report : LineReport) (colour : Palette → Octets) (text : Octets) : Octets :=
  match report.palette with
  | some palette => palette.paint (colour palette) text
  | none => text

/-- The name of a file, and a mark or what else is to end it. -/
def named (report : LineReport) (name : Octets) (mark : Char) : Octets :=
  report.painted (·.name) name ++
    if report.endsNames then ['\x00'] else report.painted (·.mark) [mark]

/-- What stands in front of a text of a line: the name of the file, the numbers of the line and of
the octets before the text, each with a mark. -/
def heading (report : LineReport) (name : Octets) (width : Nat) (mark : Char)
    (line : NumberedLine) (offset : Nat) (text : Octets) : Octets :=
  let filled (value : Nat) : Octets :=
    let digits := Number.digits 10 value
    List.replicate (width - digits.length) ' ' ++ digits
  let numbered (colour : Palette → Octets) (value : Nat) : Octets :=
    report.painted colour (filled value) ++ report.painted (·.mark) [mark]
  (if report.showsNames then report.named name mark else []) ++
    (if report.showsNumbers then numbered (·.number) line.number else []) ++
    (if report.showsOffsets then numbered (·.offset) (line.offset + offset) else []) ++
    (if report.hasTab && !text.isEmpty &&
      (report.showsNames || report.showsNumbers || report.showsOffsets) then ['\t'] else [])

/-- A line as it is shown; `isSelected` if it is not only there for its context. -/
def shown (report : LineReport) (name : Octets) (width : Nat) (isSelected : Bool)
    (line : NumberedLine) : Octets :=
  let isOpposite := report.search.isOpposite
  let hasMatches := isSelected != isOpposite
  let heading := report.heading name width
  let matchColour (palette : Palette) : Octets :=
    if isSelected then palette.selectedMatch else palette.contextMatch
  if report.showsParts then
    if !hasMatches then []
    else
      (report.search.parts line.text).flatMap fun found ↦
        heading (if isOpposite then '-' else ':') line found.start.index found.text ++
          report.painted matchColour found.text ++ [report.ending]
  else
    let start := heading (if isSelected then ':' else '-') line 0 line.text
    let body :=
      match report.palette with
      | none => line.text
      | some palette =>
        let colour :=
          if isSelected != (palette.isReversed && isOpposite) then palette.selectedLine
          else palette.contextLine
        let colourStart := if colour.isEmpty then [] else palette.start colour
        let found := if hasMatches then report.search.parts line.text else []
        let (parts, place) := found.foldl (fun (shown, place) (found : Match) ↦
          (shown ++ colourStart ++ place.upTo found.start ++
            palette.paint (matchColour palette) found.text, found.finish))
          (([] : Octets), Place.start line.text)
        parts ++ (if place.rest.isEmpty then [] else palette.paint colour place.rest)
    start ++ body ++ [report.ending]

/-- What is known while lines are gone through: what was shown, the last chunk first; whether
anything was shown before; the number of the last line that was shown; the lines before this one
that were not, the nearest first; how many lines are still to be shown for their context; how many
lines were selected; and the number of the last line that was. -/
structure Progress where
  shown : List Octets
  hasShown : Bool
  last : Nat
  earlier : List NumberedLine
  pending : Nat
  count : Nat
  lastSelected : Nat

/-- The lines that may still be selected are used up. -/
def isFull (report : LineReport) (progress : Progress) : Bool :=
  report.most.any (· ≤ progress.count)

/-- Shows a line for its context, if it is still to be shown. -/
def pass (report : LineReport) (name : Octets) (width : Nat) (progress : Progress)
    (line : NumberedLine) : Progress :=
  if progress.pending = 0 then
    { progress with earlier := (line :: progress.earlier).take report.before }
  else
    { progress with
      shown := report.shown name width false line :: progress.shown
      last := line.number
      pending := progress.pending - 1 }

/-- Goes on with one more line. -/
def step (report : LineReport) (name : Octets) (width : Nat) (progress : Progress)
    (line : NumberedLine) : Progress :=
  if report.isFull progress then
    if progress.pending = 0 then progress else report.pass name width progress line
  else if report.search.selects line.text then
    let earlier := progress.earlier.reverse
    let first := (earlier.headD line).number
    let gap :=
      if progress.hasShown && (progress.last = 0 || progress.last + 1 < first) then
        (report.gap.map fun text ↦ report.painted (·.mark) text ++ ['\n']).toList
      else []
    let context := earlier.map (report.shown name width false)
    { shown := report.shown name width true line :: context.reverse ++ gap ++ progress.shown
      hasShown := true
      last := line.number
      earlier := []
      pending := report.after
      count := progress.count + 1
      lastSelected := line.number }
  else report.pass name width progress line

/-- The lines of a text, with their numbers. -/
def numbered (ending : Char) (text : Octets) : List NumberedLine :=
  let (parts, last) := partsOf (· == ending) text
  let parts := if last.isEmpty then parts else parts ++ [last]
  let (lines, _) := parts.foldl (fun (lines, number, offset) part ↦
    (⟨part, number, offset⟩ :: lines, number + 1, offset + part.length + 1))
    (([] : List NumberedLine), 1, 0)
  lines.reverse

/-- Goes through the lines of a text; `hasShown` if lines of another one were shown before. -/
def lines (report : LineReport) (name : Octets) (width : Nat) (hasShown : Bool) (text : Octets) :
    Progress :=
  (numbered report.ending text).foldl (report.step name width) ⟨[], hasShown, 0, [], 0, 0, 0⟩

/-- How many lines of a text are selected, and the number of the last one that is. -/
def count (report : LineReport) (text : Octets) : Nat × Nat :=
  (numbered report.ending text).foldl (fun (count, last) line ↦
    if report.most.any (· ≤ count) then (count, last)
    else if report.search.selects line.text then (count + 1, line.number)
    else (count, last)) (0, 0)

end LineReport

end Scaffold.Shell
