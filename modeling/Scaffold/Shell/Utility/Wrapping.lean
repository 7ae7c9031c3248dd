import Scaffold.Shell.Utility.Amount

/-!
# Filling lines with words

`fmt` takes the words of a paragraph and breaks them into lines again. Each break has a cost, which
is low where a sentence or a clause ends and high where a line would be short or unlike its
neighbour, and the breaks of least cost in all are taken (`Paragraph.plan`).
-/

set_option autoImplicit false

namespace Scaffold.Shell

open Text (Octets)

/-- A word with the blanks behind it: how it begins, whether it ends a clause or may end a sentence,
and whether it does. -/
structure FillWord where
  text : Octets
  space : Nat
  opens : Bool
  endsClause : Bool
  hasPeriod : Bool
  isFinal : Bool
  deriving Inhabited

/-- How paragraphs are filled. -/
structure FillStyle where
  /-- The indentation of the second line is that of all that follow. -/
  isCrown : Bool
  /-- The second line has to be indented otherwise than the first. -/
  isTagged : Bool
  /-- Lines are broken, and never joined. -/
  onlySplits : Bool
  /-- Words have one space between them, and sentences two. -/
  isUniform : Bool
  /-- What lines have in front of them to be filled, without blanks around it. -/
  stem : Octets
  /-- The blanks in front of the stem, and how long it is with those behind it. -/
  stemIndent : Nat
  stemLength : Nat
  width : Nat
  goal : Nat

/-! ### Breaks -/

/-- What is planned for a line that starts with a word: the word that starts the next line, how long
the line is, and what it costs together with those that follow. -/
structure LinePlan where
  next : Nat
  length : Int
  cost : Int
  deriving Inhabited

/-- The words of a paragraph, and the columns that its first line and the others start in. -/
structure Paragraph where
  words : Array FillWord
  firstIndent : Nat
  otherIndent : Nat
  /-- The length of the line before, if the paragraph goes on from there. -/
  lastLength : Nat

namespace Paragraph

/-- The cost of a line that is so much too short. -/
def shortCost (gap : Int) : Int :=
  gap * 10 * (gap * 10)

/-- The cost of a line that is so much shorter or longer than its neighbour. -/
def raggedCost (gap : Int) : Int :=
  shortCost gap / 2

/-- The cost of a break before a word. -/
def breakCost (words : Array FillWord) (index : Nat) : Int :=
  let word := words.getD index default
  let before := words.getD (index - 1) default
  let lengthOf := fun (word : FillWord) ↦ (word.text.length : Int)
  let front : Int :=
    if index = 0 then 0
    else if before.hasPeriod then if before.isFinal then -2500 else 360000
    else if before.endsClause then -1600
    else if 1 < index && (words.getD (index - 2) default).isFinal then
      40000 / (lengthOf before + 2)
    else 0
  let own : Int :=
    if word.opens then -1600
    else if word.isFinal then 22500 / (lengthOf word + 2)
    else 0
  4900 + front + own

/-- The cost of a line of a length whose next line starts with a word. -/
def lineCost (goal count : Nat) (plans : Array LinePlan) (next : Nat) (length : Int) : Int :=
  if next = count then 0
  else
    let plan := plans.getD next default
    shortCost (goal - length) +
      if plan.next = count then 0 else raggedCost (length - plan.length)

/-- The best line that starts with a word, of those that end before a word or later ones; `left`
bounds the number of these. -/
def bestLine (style : FillStyle) (paragraph : Paragraph) (plans : Array LinePlan) (start : Nat) :
    (left next : Nat) → (length : Int) → (best : Option LinePlan) → Option LinePlan
  | 0, _, _, best => best
  | left + 1, next, length, best =>
    let words := paragraph.words
    let ragged :=
      if start = 0 ∧ paragraph.lastLength > 0 then raggedCost (length - paragraph.lastLength) else 0
    let cost := lineCost style.goal words.size plans next length +
      (plans.getD next default).cost + ragged
    let best :=
      if best.all fun plan ↦ cost < plan.cost then some ⟨next, length, cost⟩ else best
    if next = words.size then best
    else
      let longer := length + (words.getD (next - 1) default).space +
        (words.getD next default).text.length
      if longer < style.width then bestLine style paragraph plans start left (next + 1) longer best
      else best

/-- The plans for lines that start with each of the words. -/
def plan (style : FillStyle) (paragraph : Paragraph) : Array LinePlan :=
  let words := paragraph.words
  let none_ : Array LinePlan := Array.replicate (words.size + 1) ⟨words.size, 0, 0⟩
  (List.range words.size).reverse.foldl (fun plans start ↦
    let indent := if start = 0 then paragraph.firstIndent else paragraph.otherIndent
    let length : Int := indent + (words.getD start default).text.length
    match bestLine style paragraph plans start (words.size + 1) (start + 1) length none with
    | some plan => plans.set! start { plan with cost := plan.cost + breakCost words start }
    | none => plans) none_

end Paragraph

/-! ### Lines -/

namespace FillStyle

/-- Blanks from a column on; a stop is at each eighth column if there are any. -/
def blanks (hasTabs : Bool) (column count : Nat) : Octets :=
  let target := column + count
  let stop := target / 8 * 8
  if hasTabs && column + 1 < stop then
    List.replicate (stop / 8 - column / 8) '\t' ++ List.replicate (target - stop) ' '
  else List.replicate count ' '

/-- A line of words that starts in a column. -/
def line (style : FillStyle) (hasTabs : Bool) (stemColumn indent : Nat) (words : List FillWord) :
    Octets × Nat :=
  let lead := blanks hasTabs 0 stemColumn ++ style.stem
  let column := stemColumn + style.stem.length
  let start := (lead ++ blanks hasTabs column (indent - column), max indent column)
  let (text, column) := words.zipIdx.foldl (fun (found : Octets × Nat) (word, index) ↦
    let (text, column) := found
    let after := column + word.text.length
    if index + 1 = words.length then (text ++ word.text, after)
    else (text ++ word.text ++ blanks hasTabs after word.space, after + word.space)) start
  (text ++ ['\n'], column)

/-- The lines of a paragraph up to a word, and the length of the last one; `left` bounds their
number. -/
def lines (style : FillStyle) (hasTabs : Bool) (stemColumn : Nat) (paragraph : Paragraph)
    (plans : Array LinePlan) (finish : Nat) : (left start lastLength : Nat) → Octets × Nat
  | 0, _, lastLength => ([], lastLength)
  | left + 1, start, lastLength =>
    if finish ≤ start then ([], lastLength)
    else
      let next := (plans.getD start default).next
      let indent := if start = 0 then paragraph.firstIndent else paragraph.otherIndent
      let (text, length) := style.line hasTabs stemColumn indent
        (paragraph.words.extract start next).toList
      let (rest, length) := lines style hasTabs stemColumn paragraph plans finish left next length
      (text ++ rest, length)

end FillStyle

/-! ### Reading -/

/-- Where the reading stands: what is left of the text, the column, where the stem of the line
stands, whether there are tabs, the column of the second line of the paragraph before, and what was
written, in reverse. -/
structure FillReading where
  rest : Octets
  column : Nat
  stemColumn : Nat
  hasTabs : Bool
  otherIndent : Nat
  written : List Octets

namespace FillReading

/-- Reads blanks; `left` bounds their number. -/
def skipBlanks : (left : Nat) → FillReading → FillReading
  | 0, reading => reading
  | left + 1, reading =>
    match reading.rest with
    | ' ' :: rest => skipBlanks left { reading with rest, column := reading.column + 1 }
    | '\t' :: rest =>
      skipBlanks left { reading with rest, column := (reading.column / 8 + 1) * 8, hasTabs := true }
    | _ => reading

/-- Reads the stem as far as the line has it. -/
def skipStem : FillReading → Octets → FillReading × Bool
  | reading, [] => (reading, true)
  | reading, c :: stem =>
    match reading.rest with
    | first :: rest =>
      if first = c then skipStem { reading with rest, column := reading.column + 1 } stem
      else (reading, false)
    | [] => (reading, false)

/-- Reads the blanks and the stem at the front of a line. -/
def startLine (style : FillStyle) (reading : FillReading) : FillReading :=
  let reading := skipBlanks (reading.rest.length + 1) { reading with column := 0 }
  if style.stem.isEmpty then { reading with stemColumn := min style.stemIndent reading.column }
  else
    let (found, isWhole) := skipStem { reading with stemColumn := reading.column } style.stem
    if isWhole then skipBlanks (found.rest.length + 1) found else found

/-- Nothing is left of the line. -/
def isAtEnd (reading : FillReading) : Bool :=
  reading.rest.isEmpty || reading.rest.head? = some '\n'

/-- The line goes on behind its stem. -/
def isFilled (style : FillStyle) (reading : FillReading) : Bool :=
  reading.stemColumn + style.stemLength ≤ reading.column && !reading.isAtEnd

/-- Writes a text. -/
def write (reading : FillReading) (text : Octets) : FillReading :=
  { reading with written := text :: reading.written }

/-- Copies a line that is not filled, with its end if it has one. -/
def copyLine (style : FillStyle) (reading : FillReading) : FillReading :=
  let line := reading.rest.takeWhile (· != '\n')
  let after := reading.rest.drop line.length
  let isLast := after.isEmpty
  let lead :=
    if reading.stemColumn < reading.column || !line.isEmpty then
      let stem := style.stem.take (reading.column - reading.stemColumn)
      let column := reading.stemColumn + stem.length
      FillStyle.blanks reading.hasTabs 0 reading.stemColumn ++ stem ++
        (if line.isEmpty then []
        else FillStyle.blanks reading.hasTabs column (reading.column - column)) ++
        (if isLast && line.isEmpty && reading.stemColumn + style.stem.length ≤ reading.column then
          ['\n'] else [])
    else []
  { reading.write (lead ++ line ++ if isLast then [] else ['\n']) with rest := after.drop 1 }

/-- Opening signs. -/
def isOpening (c : Char) : Bool :=
  ['(', '[', '\x27', '\x60', '\x22'].contains c

/-- Closing signs. -/
def isClosing (c : Char) : Bool :=
  [')', ']', '\x27', '\x22'].contains c

/-- Signs of punctuation. -/
def isPunctuation (c : Char) : Bool :=
  33 ≤ c.toNat && c.toNat < 127 && !c.isAlphanum

/-- A blank between words. -/
def isBlank (c : Char) : Bool :=
  c.isWhitespace || c == '\x0b' || c == '\x0c'

/-- Reads a word and the blanks behind it. -/
def takeWord (style : FillStyle) (reading : FillReading) : FillWord × FillReading :=
  let first := reading.rest.take 1
  let text := first ++ (reading.rest.drop 1).takeWhile (! isBlank ·)
  let column := reading.column + text.length
  let after := skipBlanks (reading.rest.length + 1)
    { reading with rest := reading.rest.drop text.length, column }
  let core := text.reverse
  let core := if core.all isClosing then core.drop (core.length - 1) else core.dropWhile isClosing
  let hasPeriod := core.head?.any ['.', '?', '!'].contains
  let space := after.column - column
  let isFinal := after.rest.isEmpty || (hasPeriod && (after.isAtEnd || 1 < space))
  let space := if after.isAtEnd || style.isUniform then if isFinal then 2 else 1 else space
  (⟨text, space, first.head?.any isOpening, text.getLast?.any isPunctuation, hasPeriod, isFinal⟩,
    after)

end FillReading

/-! ### Paragraphs -/

/-- A paragraph that is being read: its words and their octets, where it starts, and the length of
the last line that was written of it. -/
structure FillState where
  reading : FillReading
  words : Array FillWord
  size : Nat
  stemColumn : Nat
  firstIndent : Nat
  lastLength : Nat

namespace FillState

/-- The words as a paragraph. -/
def paragraph (state : FillState) : Paragraph :=
  ⟨state.words, state.firstIndent, state.reading.otherIndent, state.lastLength⟩

/-- Decides where the lines after the first start; the paragraph goes on if `continues`. -/
def decideIndent (style : FillStyle) (continues : Bool) (state : FillState) : FillState :=
  let first := state.firstIndent
  let reading := state.reading
  let otherIndent :=
    if style.onlySplits then first
    else if style.isCrown then if continues then reading.column else first
    else if style.isTagged then
      if continues && reading.column != first then reading.column
      else if reading.otherIndent = first then if first = 0 then 3 else 0
      else reading.otherIndent
    else first
  { state with reading := { reading with otherIndent } }

/-- The line goes on with the paragraph. -/
def continues (style : FillStyle) (state : FillState) : Bool :=
  state.reading.stemColumn = state.stemColumn && state.reading.isFilled style

/-- Writes the lines up to a word. -/
def put (style : FillStyle) (state : FillState) (plans : Array LinePlan) (finish : Nat) :
    FillState :=
  let (text, lastLength) := style.lines state.reading.hasTabs state.stemColumn state.paragraph plans
    finish (state.words.size + 1) 0 state.lastLength
  { state with reading := state.reading.write text, lastLength }

/-- The break in a plan behind which a paragraph is best cut in two; `left` bounds the search. -/
def cutPoint (plans : Array LinePlan) (count : Nat) :
    (left word point : Nat) → (best : Option Int) → Nat
  | 0, _, point, _ => point
  | left + 1, word, point, best =>
    if count ≤ word then point
    else
      let plan := plans.getD word default
      let cost := plan.cost - (plans.getD plan.next default).cost
      let (point, best) := if best.all (cost < ·) then (word, cost) else (point, best.getD cost)
      cutPoint plans count left plan.next point (some (best + 9))

/-- Writes a part of a paragraph that is too long to be held. -/
def flush (style : FillStyle) (state : FillState) : FillState :=
  if state.words.isEmpty then state
  else
    let plans := state.paragraph.plan style
    let point := cutPoint plans state.words.size (state.words.size + 1)
      (plans.getD 0 default).next state.words.size none
    let state := state.put style plans point
    let words := state.words.extract point state.words.size
    { state with
      words
      size := words.foldl (fun size word ↦ size + word.text.length) 0 }

/-- Reads the words of a line, and the front of the next one; `left` bounds their number. -/
def takeLine (style : FillStyle) : (left : Nat) → FillState → FillState
  | 0, state => state
  | left + 1, state =>
    let (word, reading) := state.reading.takeWord style
    let isOver := state.words.size = 998 || 5000 < state.size + word.text.length
    let state := if isOver then (state.decideIndent style true).flush style else state
    let state := { state with
      reading := { reading with
        otherIndent := state.reading.otherIndent, written := state.reading.written }
      words := state.words.push word
      size := state.size + word.text.length }
    if reading.isAtEnd then
      let reading := state.reading
      if reading.rest.isEmpty then { state with reading := { reading with column := 0 } }
      else { state with reading := { reading with rest := reading.rest.drop 1 }.startLine style }
    else takeLine style left state

/-- Reads lines as long as they go on with the paragraph; `left` bounds their number. -/
def takeLines (style : FillStyle) : (left : Nat) → FillState → FillState
  | 0, state => state
  | left + 1, state =>
    if state.continues style && state.reading.column = state.reading.otherIndent then
      takeLines style left (state.takeLine style (state.reading.rest.length + 1))
    else state

/-- Reads a paragraph and writes it. -/
def fill (style : FillStyle) (reading : FillReading) : FillReading :=
  let room := reading.rest.length + 1
  let state : FillState := ⟨reading, #[], 0, reading.stemColumn, reading.column, 0⟩
  let state := state.takeLine style room
  let state := state.decideIndent style (state.continues style)
  let isDifferent := state.reading.column != state.firstIndent
  let state :=
    if style.onlySplits then state
    else if style.isCrown || style.isTagged then
      if state.continues style && (style.isCrown || isDifferent) then
        (state.takeLine style room).takeLines style room
      else state
    else state.takeLines style room
  let words := state.words.modify (state.words.size - 1) fun word ↦
    { word with hasPeriod := true, isFinal := true }
  let state := { state with words }
  (state.put style (state.paragraph.plan style) words.size).reading

end FillState

namespace FillReading

/-- Fills all paragraphs that are left; `left` bounds the number of steps. -/
def fillAll (style : FillStyle) : (left : Nat) → FillReading → FillReading
  | 0, reading => reading
  | left + 1, reading =>
    if style.stemIndent ≤ reading.stemColumn && reading.isFilled style then
      fillAll style left (FillState.fill style reading)
    else if reading.rest.isEmpty then reading.copyLine style
    else
      let hasEnd := reading.rest.contains '\n'
      let copied := reading.copyLine style
      if hasEnd then fillAll style left (copied.startLine style) else copied

/-- A text with its paragraphs filled. -/
def filled (style : FillStyle) (text : Octets) : Octets :=
  let start : FillReading := ⟨text, 0, 0, false, 0, []⟩
  ((start.startLine style).fillAll style (text.length + 2)).written.reverse.flatten

end FillReading

namespace Utility

/-- The style that options give. -/
def fillStyle (options : Options) : Except (Octets × Bool) FillStyle := do
  let amount := fun (greatest : Nat) (text : Octets) ↦
    (AmountForm.read ⟨false, [], 0, greatest, false⟩ text).mapError fun fault ↦
      ("invalid width: ".toList ++ Quoting.plain text ++ fault.addition.toList, false)
  let width? ← (options.value? 'w').mapM (amount 2500)
  let goal? ← (options.value? 'g').mapM (amount ((width?.getD 75).toNat))
  let width := (width?.getD ((goal?.map (· + 10)).getD 75)).toNat
  let goal := (goal?.getD (width * 187 / 200 : Nat)).toNat
  let text := (options.value? 'p').getD []
  let indent := (text.takeWhile (· == ' ')).length
  let body := text.drop indent
  let stem := (body.reverse.dropWhile (· == ' ')).reverse
  return ⟨options.has 'c', options.has 't', options.has 's', options.has 'u', stem, indent,
    body.length, width, goal⟩

/-- Fills lines with words. -/
def fmt : Utility where
  name := "fmt"
  run task :=
    let arguments :=
      match task.arguments with
      | ('-' :: c :: digits) :: rest =>
        if c.isDigit then ['-', 'w'] :: (c :: digits) :: rest else task.arguments
      | arguments => arguments
    let form : OptionForm :=
      { flags := ['c', 's', 't', 'u']
        valued := ['w', 'p', 'g']
        long := [("crown-margin", 'c'), ("prefix", 'p'), ("split-only", 's'),
          ("tagged-paragraph", 't'), ("uniform-spacing", 'u'), ("width", 'w'), ("goal", 'g')]
        stopsEarly := false }
    match Options.parse form arguments with
    | .error text =>
      let digit? := (text.toList.getLast?.filter (· == '\x27')).bind fun _ ↦
        (text.toList.dropLast.getLast?).filter Char.isDigit
      match digit? with
      | some digit =>
        task.misuse 1 ("invalid option -- " ++ String.ofList [digit] ++
          "; -WIDTH is recognized only when it is the first\noption; use -w N instead")
      | none => task.misuse 1 text
    | .ok options =>
      match fillStyle options with
      | .error (text, _) => task.complain 1 text
      | .ok style =>
        let operands := Task.operandsOrInput options.operands
        let written := (task.sources operands).map fun (operand, contents) ↦
          match contents with
          | .ok text => (1, FillReading.filled style text)
          | .error .isDirectory => (2, task.message "read error".toList)
          | .error error =>
            (2, task.message ("cannot open ".toList ++ Quoting.plain operand ++
              (" for reading: " ++ error.reason).toList))
        task.finishAll (if written.any (·.1 == 2) then 1 else 0) written
          (operands.any Task.isInput)

end Utility

end Scaffold.Shell
