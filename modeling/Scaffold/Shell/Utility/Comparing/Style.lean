import Scaffold.Shell.Number
import Scaffold.Shell.Utility.Comparing.Difference

/-!
# Styles of differences

How the differences of two texts are shown: one after the other (`Styling.normal`), with the lines
around them (`Styling.contextual`, `Styling.unified`), as commands for an editor
(`Styling.commands`, `Styling.counted`), or beside each other (`Styling.beside`). A last line
without an end is marked as one.
-/

set_option autoImplicit false

namespace Scaffold.Shell

open Text (Octets)

/-- A text as lines, without their ends; the last one may have none. -/
structure LinedText where
  lines : Array Octets
  isComplete : Bool
  deriving Repr

/-- Two texts and how their differences are shown. -/
structure Styling where
  old : LinedText
  new : LinedText
  /-- How many lines around differences are shown. -/
  context : Nat
  tabSize : Nat
  expandsTabs : Bool
  /-- A tab stands between a mark and its line. -/
  hasTab : Bool
  /-- No blank follows the mark of an empty line. -/
  isBare : Bool
  /-- Differences of such lines alone are left out. -/
  ignores : Option (Octets → Bool)
  /-- Lines that begin a part of a text, whose last one is shown above a difference. -/
  heads : Option (Octets → Bool)
  width : Nat
  showsLeftAlone : Bool
  hidesEqual : Bool

namespace Styling

/-- A line with tabs turned into blanks, from a column on. -/
def expanded (size : Nat) : (column : Nat) → Octets → Octets
  | _, [] => []
  | column, '\t' :: rest =>
    let count := size - column % size
    List.replicate count ' ' ++ expanded size (column + count) rest
  | column, c :: rest => c :: expanded size (column + 1) rest

/-- What ends a line of a text. -/
def ending (text : LinedText) (index : Nat) : Octets :=
  if index + 1 = text.lines.size ∧ !text.isComplete then
    "\n\\ No newline at end of file\n".toList
  else ['\n']

/-- A line as it is shown, with its end. -/
def plainLine (styling : Styling) (text : LinedText) (index : Nat) : Octets :=
  let line := text.lines.getD index []
  (if styling.expandsTabs then expanded styling.tabSize 0 line else line) ++ ending text index

/-- A line after a mark. -/
def markedLine (styling : Styling) (mark : Char) (text : LinedText) (index : Nat) : Octets :=
  let isEmpty := (text.lines.getD index []).isEmpty
  let front :=
    if styling.isBare && isEmpty then if mark = ' ' then [] else [mark]
    else [mark, if styling.hasTab then '\t' else ' ']
  front ++ styling.plainLine text index

/-- The lines from one on, so many, after a mark. -/
def markedLines (styling : Styling) (mark : Char) (text : LinedText) (start count : Nat) : Octets :=
  (List.range count).flatMap fun offset ↦ styling.markedLine mark text (start + offset)

/-- The difference is of lines that are ignored. -/
def isIgnored (styling : Styling) (hunk : Hunk) : Bool :=
  match styling.ignores with
  | none => false
  | some ignores =>
    ((styling.old.lines.extract hunk.oldStart (hunk.oldStart + hunk.oldCount)).all ignores) &&
      (styling.new.lines.extract hunk.newStart (hunk.newStart + hunk.newCount)).all ignores

/-- The difference that spans several ones and what lies between them. -/
def spanOf : List Hunk → Hunk
  | [] => ⟨0, 0, 0, 0⟩
  | first :: others =>
    let last := others.getLastD first
    ⟨first.oldStart, last.oldStart + last.oldCount - first.oldStart, first.newStart,
      last.newStart + last.newCount - first.newStart⟩

/-- The numbers of a run of lines: the first and the last, or one, which comes before a run of
none. -/
def numbers (start count : Nat) (mark : Char) : Octets :=
  if count ≤ 1 then Number.digits 10 (start + count)
  else Number.digits 10 (start + 1) ++ mark :: Number.digits 10 (start + count)

/-- The letter of a difference. -/
def letter (hunk : Hunk) : Char :=
  if hunk.oldCount = 0 then 'a' else if hunk.newCount = 0 then 'd' else 'c'

/-- A difference by itself. -/
def normal (styling : Styling) (hunk : Hunk) : Octets :=
  numbers hunk.oldStart hunk.oldCount ',' ++ letter hunk ::
    numbers hunk.newStart hunk.newCount ',' ++ ['\n'] ++
    styling.markedLines '<' styling.old hunk.oldStart hunk.oldCount ++
    (if letter hunk = 'c' then "---\n".toList else []) ++
    styling.markedLines '>' styling.new hunk.newStart hunk.newCount

/-- The lines of commands that put the new lines in; a line of a dot alone would end them. -/
def inserted (styling : Styling) (hunk : Hunk) : Octets :=
  let (text, isOpen) := (List.range hunk.newCount).foldl (fun (state : Octets × Bool) offset ↦
    let line := styling.new.lines.getD (hunk.newStart + offset) []
    let start := if state.2 then [] else "a\n".toList
    if line = ['.'] then (state.1 ++ start ++ "..\n.\ns/.//\n".toList, false)
    else (state.1 ++ start ++ line ++ ['\n'], true)) ([], true)
  text ++ if isOpen then ".\n".toList else []

/-- A difference as a command of an editor. -/
def command (styling : Styling) (hunk : Hunk) : Octets :=
  numbers hunk.oldStart hunk.oldCount ',' ++ letter hunk :: '\n' ::
    if hunk.newCount = 0 then [] else styling.inserted hunk

/-- A difference as a command with the letter first. -/
def letterFirst (styling : Styling) (hunk : Hunk) : Octets :=
  letter hunk :: numbers hunk.oldStart hunk.oldCount ' ' ++ '\n' ::
    if hunk.newCount = 0 then []
    else (List.range hunk.newCount).flatMap (fun offset ↦
      styling.new.lines.getD (hunk.newStart + offset) [] ++ ['\n']) ++ ".\n".toList

/-- A difference as commands that count their lines. -/
def counted (styling : Styling) (hunk : Hunk) : Octets :=
  let line := fun (letter : Char) (place count : Nat) ↦
    letter :: Number.digits 10 place ++ ' ' :: Number.digits 10 count ++ ['\n']
  let last := hunk.newStart + hunk.newCount == styling.new.lines.size && !styling.new.isComplete
  let lines := (List.range hunk.newCount).flatMap fun offset ↦
    styling.new.lines.getD (hunk.newStart + offset) [] ++ ['\n']
  (if hunk.oldCount = 0 then [] else line 'd' (hunk.oldStart + 1) hunk.oldCount) ++
    if hunk.newCount = 0 then []
    else line 'a' (hunk.oldStart + hunk.oldCount) hunk.newCount ++
      if last then lines.dropLast else lines

/-! ### Differences with the lines around them -/

/-- The differences in groups: those that few lines lie between are together. -/
def groups (styling : Styling) (hunks : List Hunk) : List (List Hunk) :=
  let near := fun (first second : Hunk) ↦
    let gap := second.oldStart - (first.oldStart + first.oldCount)
    if styling.isIgnored second then gap < styling.context else gap ≤ 2 * styling.context
  hunks.foldr (fun hunk groups ↦
    match groups with
    | (next :: others) :: rest =>
      if near hunk next then (hunk :: next :: others) :: rest else [hunk] :: groups
    | groups => [hunk] :: groups) []

/-- A group is shown: not all of it is ignored. -/
def isShown (styling : Styling) (group : List Hunk) : Bool :=
  !group.all styling.isIgnored

/-- The bounds of a run of lines with the lines around it. -/
def surrounded (styling : Styling) (text : LinedText) (start count : Nat) : Nat × Nat :=
  (start - styling.context, min (start + count + styling.context) text.lines.size)

/-- The head of the part of the text that a line is in, after a blank. -/
def headOf (styling : Styling) (line : Nat) : Octets :=
  match styling.heads with
  | none => []
  | some isHead =>
    match ((styling.old.lines.extract 0 line).toList.filter isHead).getLast? with
    | none => []
    | some head =>
      let text := (head.dropWhile Char.isWhitespace).take 40
      ' ' :: (text.reverse.dropWhile Char.isWhitespace).reverse

/-- The lines of a group with marks, from a line on. -/
def unifiedBody (styling : Styling) (finish : Nat) : (line : Nat) → List Hunk → Octets
  | line, [] => plain line (finish - line)
  | line, hunk :: others =>
    plain line (hunk.oldStart - line) ++
      marked '-' styling.old hunk.oldStart hunk.oldCount ++
      marked '+' styling.new hunk.newStart hunk.newCount ++
      unifiedBody styling finish (hunk.oldStart + hunk.oldCount) others
where
  /-- Lines of both texts. -/
  plain (start count : Nat) : Octets :=
    (List.range count).flatMap fun offset ↦
      let isEmpty := (styling.old.lines.getD (start + offset) []).isEmpty
      (if styling.isBare && isEmpty then [] else [if styling.hasTab then '\t' else ' ']) ++
        styling.plainLine styling.old (start + offset)
  /-- Lines of one text. -/
  marked (mark : Char) (text : LinedText) (start count : Nat) : Octets :=
    (List.range count).flatMap fun offset ↦
      let isEmpty := (text.lines.getD (start + offset) []).isEmpty
      mark :: (if styling.hasTab && !(styling.isBare && isEmpty) then ['\t'] else []) ++
        styling.plainLine text (start + offset)

/-- A group with old and new lines in one list. -/
def unified (styling : Styling) (group : List Hunk) : Octets :=
  let span := spanOf group
  let (oldStart, oldEnd) := styling.surrounded styling.old span.oldStart span.oldCount
  let (newStart, newEnd) := styling.surrounded styling.new span.newStart span.newCount
  let range := fun (start finish : Nat) ↦
    let count := finish - start
    if count = 1 then Number.digits 10 finish
    else Number.digits 10 (if count = 0 then finish else start + 1) ++
      ',' :: Number.digits 10 count
  "@@ -".toList ++ range oldStart oldEnd ++ " +".toList ++ range newStart newEnd ++ " @@".toList ++
    styling.headOf oldStart ++ ['\n'] ++ unifiedBody styling oldEnd oldStart group

/-- A group with the old lines and then the new ones. -/
def contextual (styling : Styling) (group : List Hunk) : Octets :=
  let span := spanOf group
  let (oldStart, oldEnd) := styling.surrounded styling.old span.oldStart span.oldCount
  let (newStart, newEnd) := styling.surrounded styling.new span.newStart span.newCount
  let lines := fun (text : LinedText) (start finish : Nat) (markOf : Nat → Char) ↦
    (List.range (finish - start)).flatMap fun offset ↦
      styling.markedLine (markOf (start + offset)) text (start + offset)
  let oldMark := fun (line : Nat) ↦
    match group.find? fun hunk ↦ hunk.oldStart ≤ line && line < hunk.oldStart + hunk.oldCount with
    | some hunk => if hunk.newCount > 0 then '!' else '-'
    | none => ' '
  let newMark := fun (line : Nat) ↦
    match group.find? fun hunk ↦ hunk.newStart ≤ line && line < hunk.newStart + hunk.newCount with
    | some hunk => if hunk.oldCount > 0 then '!' else '+'
    | none => ' '
  "***************".toList ++ styling.headOf oldStart ++ "\n*** ".toList ++
    numbers oldStart (oldEnd - oldStart) ',' ++ " ****\n".toList ++
    (if group.any (·.oldCount > 0) then lines styling.old oldStart oldEnd oldMark else []) ++
    "--- ".toList ++ numbers newStart (newEnd - newStart) ',' ++ " ----\n".toList ++
    if group.any (·.newCount > 0) then lines styling.new newStart newEnd newMark else []

/-! ### Texts beside each other -/

/-- The width of the left half, and the column of the right one. -/
def halves (styling : Styling) : Nat × Nat :=
  let tab := if styling.expandsTabs then 1 else styling.tabSize
  let both := tab + 3
  let odd := if styling.width % 2 = 1 ∧ both % 2 = 1 then 1 else 0
  let middle := styling.width / 2 + both / 2 + odd
  let column := middle - middle % tab
  let half := min (column - 3) (styling.width - column)
  (half, if half = 0 then styling.width else column)

/-- Blanks and tabs from a column to another one; `left` bounds the number of tabs. -/
def gap (styling : Styling) : (left : Nat) → (column target : Nat) → Octets
  | 0, column, target => List.replicate (target - column) ' '
  | left + 1, column, target =>
    let stop := column + styling.tabSize - column % styling.tabSize
    if !styling.expandsTabs ∧ stop ≤ target then '\t' :: styling.gap left stop target
    else List.replicate (target - column) ' '

/-- As much of a line as fits into half the width, and the column that it reaches: `column` is where
it is in the line, and `reached` where it is in the output. -/
def half (styling : Styling) (most : Nat) : (column reached : Nat) → Octets → Octets × Nat
  | _, reached, [] => ([], reached)
  | column, reached, '\t' :: rest =>
    let count := styling.tabSize - column % styling.tabSize
    let stop := reached + count
    if column = reached ∧ styling.expandsTabs then
      let stop := min stop most
      let (text, final) := styling.half most (column + count) stop rest
      (List.replicate (stop - reached) ' ' ++ text, final)
    else if column = reached ∧ stop < most then
      let (text, final) := styling.half most (column + count) stop rest
      ('\t' :: text, final)
    else styling.half most (column + count) reached rest
  | column, reached, c :: rest =>
    if c < ' ' ∨ c ≥ '\x7f' then
      let (text, final) := styling.half most column reached rest
      (if column < most then c :: text else text, final)
    else if column < most then
      let (text, final) := styling.half most (column + 1) (column + 1) rest
      (c :: text, final)
    else styling.half most (column + 1) reached rest

/-- A line of each text, where there is one, with a mark between them. -/
def besideLine (styling : Styling) (old? : Option Nat) (mark : Char) (new? : Option Nat) : Octets :=
  let (half, column) := styling.halves
  let isWhole := fun (text : LinedText) (index : Nat) ↦
    index + 1 < text.lines.size || text.isComplete
  let oldEnds := old?.any (isWhole styling.old)
  let newEnds := new?.any (isWhole styling.new)
  let (left, reached) :=
    match old? with
    | some index => styling.half half 0 0 (styling.old.lines.getD index [])
    | none => ([], 0)
  let middle := (half + column - 1) / 2
  let mark :=
    if mark = '|' ∧ oldEnds != newEnds then if oldEnds then '/' else '\\' else mark
  let (between, reached) :=
    if mark = ' ' then ([], reached)
    else (styling.gap styling.width reached middle ++ [mark], middle + 1)
  let right :=
    match new? with
    | none => []
    | some index =>
      let line := styling.new.lines.getD index []
      if line.isEmpty ∧ newEnds then []
      else styling.gap styling.width reached column ++ (styling.half half 0 0 line).1
  left ++ between ++ right ++ if oldEnds ∨ newEnds then ['\n'] else []

/-- Lines that both texts have, from places up to others. -/
def besideEqual (styling : Styling) (oldStart oldEnd newStart newEnd : Nat) : Octets :=
  if styling.hidesEqual then []
  else
    let both := min (oldEnd - oldStart) (newEnd - newStart)
    let pairs := if styling.showsLeftAlone then 0 else both
    let lines := (List.range pairs).flatMap fun offset ↦
      styling.besideLine (some (oldStart + offset)) ' ' (some (newStart + offset))
    let right := if styling.showsLeftAlone then 0 else newEnd - newStart - pairs
    lines ++
      ((List.range right).flatMap fun offset ↦
        styling.besideLine none ')' (some (newStart + pairs + offset))) ++
      (List.range (oldEnd - oldStart - pairs)).flatMap fun offset ↦
        styling.besideLine (some (oldStart + pairs + offset)) '(' none

/-- The texts beside each other, from places in them on. -/
def beside (styling : Styling) : (oldPlace newPlace : Nat) → List Hunk → Octets
  | oldPlace, newPlace, [] =>
    styling.besideEqual oldPlace styling.old.lines.size newPlace styling.new.lines.size
  | oldPlace, newPlace, hunk :: others =>
    if styling.isIgnored hunk then styling.beside oldPlace newPlace others
    else
      let both := min hunk.oldCount hunk.newCount
      styling.besideEqual oldPlace hunk.oldStart newPlace hunk.newStart ++
        ((List.range both).flatMap fun offset ↦
          styling.besideLine (some (hunk.oldStart + offset)) '|'
            (some (hunk.newStart + offset))) ++
        ((List.range (hunk.newCount - both)).flatMap fun offset ↦
          styling.besideLine none '>' (some (hunk.newStart + both + offset))) ++
        ((List.range (hunk.oldCount - both)).flatMap fun offset ↦
          styling.besideLine (some (hunk.oldStart + both + offset)) '<' none) ++
        styling.beside (hunk.oldStart + hunk.oldCount) (hunk.newStart + hunk.newCount) others

/-! ### Texts merged by forms -/

/-- The forms of groups of lines and of the lines in them. -/
structure MergeForms where
  oldGroup : Octets
  newGroup : Octets
  equalGroup : Octets
  changedGroup : Octets
  oldLine : Octets
  newLine : Octets
  equalLine : Octets

/-- A number in a form: `place` and `count` are those of the lines that it is about. -/
def mergeNumber? (letter : Char) (place count : Nat) : Option Nat :=
  match letter with
  | 'e' | 'E' => some place
  | 'f' | 'F' => some (place + 1)
  | 'l' | 'L' => some (place + count)
  | 'm' | 'M' => some (place + count + 1)
  | 'n' | 'N' => some count
  | _ => none

/-- The octet between quotes in a form, and what follows it. -/
def quotedOctet? : Octets → Option (Char × Octets)
  | '\x27' :: '\\' :: rest =>
    let digits := rest.takeWhile Number.isOctal
    match rest.drop digits.length with
    | '\x27' :: after => some (Char.ofNat (Text.digitsValue 8 digits % 256), after)
    | _ => none
  | '\x27' :: c :: '\x27' :: rest => some (c, rest)
  | _ => none

/-- A line in a form; `left` bounds the length of the form. -/
def mergedLine (text : LinedText) (index : Nat) : (left : Nat) → Octets → Octets
  | 0, _ => []
  | _ + 1, [] => []
  | left + 1, '%' :: rest =>
    let line := text.lines.getD index []
    let isWhole := index + 1 < text.lines.size || text.isComplete
    match rest with
    | 'l' :: rest => line ++ mergedLine text index left rest
    | 'L' :: rest => line ++ (if isWhole then ['\n'] else []) ++ mergedLine text index left rest
    | '%' :: rest => '%' :: mergedLine text index left rest
    | 'c' :: rest =>
      match quotedOctet? rest with
      | some (c, rest) => c :: mergedLine text index left rest
      | none => '%' :: mergedLine text index left ('c' :: rest)
    | rest =>
      let flags := rest.takeWhile (· == '0')
      let digits := (rest.drop flags.length).takeWhile Char.isDigit
      match rest.drop (flags.length + digits.length) with
      | 'd' :: 'n' :: after =>
        let number := Number.digits 10 (index + 1)
        let filler := if flags.isEmpty then ' ' else '0'
        List.replicate (Text.digitsValue 10 digits - number.length) filler ++ number ++
          mergedLine text index left after
      | _ => '%' :: mergedLine text index left rest
  | left + 1, c :: rest => c :: mergedLine text index left rest

/-- A group in a form; `left` bounds the length of the form. -/
def mergedGroup (styling : Styling) (forms : MergeForms) (hunk : Hunk) :
    (left : Nat) → Octets → Octets
  | 0, _ => []
  | _ + 1, [] => []
  | left + 1, '%' :: rest =>
    let lines := fun (form : Octets) (text : LinedText) (start count : Nat) ↦
      (List.range count).flatMap fun offset ↦
        mergedLine text (start + offset) (form.length + 1) form
    match rest with
    | '<' :: rest =>
      lines forms.oldLine styling.old hunk.oldStart hunk.oldCount ++
        styling.mergedGroup forms hunk left rest
    | '>' :: rest =>
      lines forms.newLine styling.new hunk.newStart hunk.newCount ++
        styling.mergedGroup forms hunk left rest
    | '=' :: rest =>
      lines forms.equalLine styling.old hunk.oldStart hunk.oldCount ++
        styling.mergedGroup forms hunk left rest
    | '%' :: rest => '%' :: styling.mergedGroup forms hunk left rest
    | 'c' :: rest =>
      match quotedOctet? rest with
      | some (c, rest) => c :: styling.mergedGroup forms hunk left rest
      | none => '%' :: styling.mergedGroup forms hunk left ('c' :: rest)
    | 'd' :: letter :: after =>
      let number? :=
        if letter.isUpper then mergeNumber? letter hunk.newStart hunk.newCount
        else mergeNumber? letter hunk.oldStart hunk.oldCount
      match number? with
      | some number => Number.digits 10 number ++ styling.mergedGroup forms hunk left after
      | none => '%' :: styling.mergedGroup forms hunk left ('d' :: letter :: after)
    | rest => '%' :: styling.mergedGroup forms hunk left rest
  | left + 1, c :: rest => c :: styling.mergedGroup forms hunk left rest

/-- The texts merged by forms, from places in them on. -/
def merged (styling : Styling) (forms : MergeForms) : (oldPlace newPlace : Nat) → List Hunk → Octets
  | oldPlace, newPlace, [] =>
    equal oldPlace (styling.old.lines.size - oldPlace) newPlace
      (styling.new.lines.size - newPlace)
  | oldPlace, newPlace, hunk :: others =>
    if styling.isIgnored hunk then styling.merged forms oldPlace newPlace others
    else
      let form :=
        if hunk.oldCount = 0 then forms.newGroup
        else if hunk.newCount = 0 then forms.oldGroup
        else forms.changedGroup
      equal oldPlace (hunk.oldStart - oldPlace) newPlace (hunk.newStart - newPlace) ++
        styling.mergedGroup forms hunk (form.length + 1) form ++
        styling.merged forms (hunk.oldStart + hunk.oldCount) (hunk.newStart + hunk.newCount)
          others
where
  /-- Lines that both texts have. -/
  equal (oldPlace oldCount newPlace newCount : Nat) : Octets :=
    if oldCount = 0 then []
    else styling.mergedGroup forms ⟨oldPlace, oldCount, newPlace, newCount⟩
      (forms.equalGroup.length + 1) forms.equalGroup

end Styling

end Scaffold.Shell
