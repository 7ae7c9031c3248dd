import Scaffold.Shell.Search.Dialect
import Scaffold.Shell.Utility.Amount
import Scaffold.Shell.Utility.Basic

/-!
# Counts and numbers

`wc` counts the lines, words and octets of files (`Tally`), and `nl` numbers their lines, where
lines of a mark tell the head, the body and the foot of a page from each other (`Numbering`).
-/

set_option autoImplicit false

namespace Scaffold.Shell

open Text (Octets)

/-! ### Counts -/

/-- What is counted of a text. -/
structure Tally where
  lines : Nat
  words : Nat
  octets : Nat
  /-- The columns of the longest line. -/
  longest : Nat

namespace Tally

/-- Nothing is counted. -/
def none : Tally :=
  ⟨0, 0, 0, 0⟩

/-- Counts of two texts, one after the other. -/
def add (first second : Tally) : Tally :=
  ⟨first.lines + second.lines, first.words + second.words, first.octets + second.octets,
    max first.longest second.longest⟩

/-- A tally as it grows: the columns of the line so far, and whether a word is open. -/
structure Growth where
  tally : Tally
  column : Nat
  isInWord : Bool

/-- Counts one more octet. A word has an octet that can be printed; a tab leads to a multiple of
eight columns. -/
def Growth.step (growth : Growth) (c : Char) : Growth :=
  let tally := { growth.tally with octets := growth.tally.octets + 1 }
  let longest := max tally.longest growth.column
  if c = '\n' then ⟨{ tally with lines := tally.lines + 1, longest }, 0, false⟩
  else if c = '\r' ∨ c = '\x0c' then ⟨{ tally with longest }, 0, false⟩
  else if c = '\t' then ⟨tally, growth.column / 8 * 8 + 8, false⟩
  else if c = ' ' then ⟨tally, growth.column + 1, false⟩
  else if c = '\x0b' then ⟨tally, growth.column, false⟩
  else if Quoting.isPrintable c then
    let words := if growth.isInWord then tally.words else tally.words + 1
    ⟨{ tally with words }, growth.column + 1, true⟩
  else ⟨tally, growth.column, growth.isInWord⟩

/-- The counts of a text. -/
def of (text : Octets) : Tally :=
  let growth := text.foldl Growth.step ⟨none, 0, false⟩
  { growth.tally with longest := max growth.tally.longest growth.column }

/-- The count that a letter asks for. -/
def count (tally : Tally) (letter : Char) : Nat :=
  match letter with
  | 'l' => tally.lines
  | 'w' => tally.words
  | 'L' => tally.longest
  | _ => tally.octets

end Tally

namespace Utility

/-- The form of the options of `wc`. -/
def tallyForm : OptionForm where
  flags := ['l', 'w', 'c', 'm', 'L']
  valued := ['\x02']
  long := [("bytes", 'c'), ("chars", 'm'), ("lines", 'l'), ("words", 'w'), ("debug", '\x03'),
    ("files0-from", '\x02'), ("max-line-length", 'L')]
  stopsEarly := false

/-- The operands that a file lists with a NUL after each. -/
def listed (text : Octets) : List Octets :=
  let (names, last) := partsOf (· == '\x00') text
  if last.isEmpty then names else names ++ [last]

/-- The columns of each count, as the sizes of files ask for. -/
def columnsFor (task : Task) (letters : List Char) (sources : List Octets) : Nat :=
  if letters.length = 1 ∧ sources.length = 1 then 1
  else
    let size? := fun (operand : Octets) ↦
      if (Task.deviceContents? operand).isSome then some none
      else if Task.isInput operand then
        match task.inputPlace.bind fun (place, _) ↦ task.tree.find? place with
        | some (.file octets _) => some (some octets.length)
        | _ => some none
      else
        match task.tree.entryAt task.here (pathOf operand) with
        | .ok (.file octets _) => some (some octets.length)
        | .ok _ => some none
        | .error _ => none
    let sizes := sources.filterMap size?
    let total := sizes.foldl (fun sum size ↦ sum + size.getD 0) 0
    if (sources.head?.bind size?).isNone then 1
    else max (Number.digits 10 total).length (if sizes.contains none then 7 else 1)

/-- Counts what the sources hold. -/
def counted (task : Task) (letters : List Char) (sources : List Octets)
    (isNamed isStreamed : Bool) : Effect :=
  let width := if isStreamed then 1 else columnsFor task letters sources
  let line := fun (tally : Tally) (name : Octets) ↦
    let texts := letters.map fun letter ↦
      let digits := Number.digits 10 (tally.count letter)
      List.replicate (width - digits.length) ' ' ++ digits
    let shown := if name.isEmpty then texts else texts ++ [name]
    (shown.intersperse [' ']).flatten ++ ['\n']
  let results := (task.sources sources).map fun (operand, contents) ↦
    let isDirectory := contents matches .error .isDirectory
    let complaint :=
      match contents with
      | .ok _ => []
      | .error error => [(2, task.refusal operand error)]
    let tally? :=
      match contents with
      | .ok text => some (Tally.of text)
      | .error _ => if isDirectory then some Tally.none else none
    let name :=
      if !isNamed then [] else if operand.contains '\n' then Quoting.shellIfNeeded operand
      else operand
    let shown := (tally?.map fun tally ↦ (1, line tally name)).toList
    (tally?.getD Tally.none, complaint ++ shown)
  let written := results.flatMap (·.2)
  let total := results.foldl (fun sum result ↦ sum.add result.1) Tally.none
  let sum := line total "total".toList
  task.finishAll (if written.any (·.1 == 2) then 1 else 0)
    (written ++ (if sources.length > 1 then [(1, sum)] else [])) (sources.any Task.isInput)

/-- Counts lines, words and octets. -/
def wc : Utility :=
  ofOptions "wc" tallyForm 1 fun task options ↦
    let letters := ['l', 'w', 'm', 'c', 'L'].filter options.has
    let letters := if letters.isEmpty then ['l', 'w', 'c'] else letters
    match options.value? '\x02' with
    | none =>
      counted task letters (Task.operandsOrInput options.operands)
        (!options.operands.isEmpty) false
    | some list =>
      match options.operands with
      | operand :: _ =>
        let text := "extra operand ".toList ++ Quoting.shell operand ++
          "\nfile operands cannot be combined with --files0-from".toList
        task.misuse 1 (String.ofList text)
      | [] =>
        match task.contents list with
        | .error error =>
          task.complain 1 ("cannot open ".toList ++ Quoting.shell list ++
            (" for reading: " ++ error.reason).toList)
        | .ok text =>
          let names := listed text
          let task := if Task.isInput list then { task with input := [] } else task
          counted task letters names true (Task.isInput list && !task.readsFile)

/-! ### Numbers of lines -/

/-- Which lines get a number. -/
inductive LineChoice
  | all
  | full
  | none
  | fitting (sought : Sought)

/-- The parts of a page. -/
inductive PagePart
  | head
  | body
  | foot
  deriving DecidableEq, Repr

/-- How lines are numbered. -/
structure Numbering where
  choice : PagePart → LineChoice
  mark : Octets
  step : Int
  /-- So many empty lines count as one. -/
  joined : Nat
  isLeft : Bool
  hasZeros : Bool
  isKept : Bool
  separator : Octets
  first : Int
  width : Nat

namespace Numbering

/-- A number as it stands in front of a line. -/
def label (numbering : Numbering) (value : Int) : Octets :=
  let digits := Number.text value
  let gap := numbering.width - digits.length
  if numbering.isLeft then digits ++ List.replicate gap ' '
  else if numbering.hasZeros then
    let sign := if value < 0 then ['-'] else []
    sign ++ List.replicate gap '0' ++ digits.drop sign.length
  else List.replicate gap ' ' ++ digits

/-- The part of a page that a line begins. -/
def part? (numbering : Numbering) (line : Octets) : Option PagePart :=
  let mark := numbering.mark
  if mark.isEmpty then none
  else if line == mark ++ mark ++ mark then some .head
  else if line == mark ++ mark then some .body
  else if line == mark then some .foot
  else none

/-- Where the numbers are: the part of the page, the next number, none if there is no further one,
and the empty lines before. -/
structure State where
  part : PagePart
  next : Option Int
  empties : Nat

/-- A line with its number, or with blanks in its place. -/
def show_ (numbering : Numbering) (state : State) (line : Octets) : State × Option Octets :=
  let blank := List.replicate (numbering.width + numbering.separator.length) ' ' ++ line
  let numbered (state : State) : State × Option Octets :=
    match state.next with
    | none => (state, none)
    | some value =>
      let next := value + numbering.step
      ({ state with next := if Number.isSmall next then some next else none },
        some (numbering.label value ++ numbering.separator ++ line))
  match numbering.choice state.part with
  | .all =>
    if numbering.joined > 1 && line.isEmpty then
      if state.empties + 1 = numbering.joined then
        numbered { state with empties := 0 }
      else ({ state with empties := state.empties + 1 }, some blank)
    else numbered { state with empties := if numbering.joined > 1 then 0 else state.empties }
  | .full => if line.isEmpty then (state, some blank) else numbered state
  | .none => (state, some blank)
  | .fitting sought => if sought.isIn line then numbered state else (state, some blank)

/-- Numbers lines; the last part tells whether all could be. -/
def lines (numbering : Numbering) (state : State) (lines : List Octets) :
    State × List Octets × Bool :=
  let (state, shown, isWhole) := lines.foldl (fun (found : State × List Octets × Bool) line ↦
    let (state, shown, isWhole) := found
    if !isWhole then found
    else
      match numbering.part? line with
      | some part =>
        let next := if numbering.isKept then state.next else some numbering.first
        (⟨part, next, state.empties⟩, ['\n'] :: shown, true)
      | none =>
        match numbering.show_ state line with
        | (state, some text) => (state, (text ++ ['\n']) :: shown, true)
        | (state, none) => (state, shown, false)) (state, [], true)
  (state, shown.reverse, isWhole)

end Numbering

/-- What a wrong style of numbers leads to. -/
inductive StyleFault
  | unknown
  | wrong (message : String)

/-- The lines that a style of numbers asks for. -/
def lineChoice (text : Octets) : Except StyleFault LineChoice :=
  match text with
  | 'a' :: _ => .ok .all
  | 't' :: _ => .ok .full
  | 'n' :: _ => .ok .none
  | 'p' :: pattern =>
    match Dialect.looseBasic.sought false pattern with
    | .ok sought => .ok (.fitting sought)
    | .error fault => .error (.wrong fault.message)
  | _ => .error .unknown

/-- The form of the options of `nl`. -/
def numberForm : OptionForm where
  flags := ['p']
  valued := ['h', 'b', 'f', 'v', 'i', 'l', 's', 'w', 'n', 'd']
  long := [("header-numbering", 'h'), ("body-numbering", 'b'), ("footer-numbering", 'f'),
    ("starting-line-number", 'v'), ("line-increment", 'i'), ("no-renumber", 'p'),
    ("join-blank-lines", 'l'), ("number-separator", 's'), ("number-width", 'w'),
    ("number-format", 'n'), ("section-delimiter", 'd')]
  stopsEarly := false

/-- Reads the options of `nl`; a fault is a message, with whether it is told where to read more. -/
def Numbering.ofOptions (options : Options) : Except (Octets × Bool) Numbering := do
  let start : Numbering × List (PagePart × LineChoice) :=
    (⟨fun _ ↦ .none, "\\:".toList, 1, 1, false, false, false, ['\t'], 1, 6⟩,
      [(.body, .full)])
  let amount := fun (least greatest : Int) (what : String) (text : Octets) ↦
    (AmountForm.read ⟨true, [], least, greatest, false⟩ text).mapError fun fault ↦
      (what.toList ++ ": ".toList ++ Quoting.plain text ++ fault.addition.toList, false)
  let lowest := -Number.greatest - 1
  let (numbering, choices) ← options.found.foldlM
    (fun (numbering, choices) (letter, text) ↦ do
      let chosen := fun (part : PagePart) (what : String) ↦
        match lineChoice text with
        | .ok choice => .ok (numbering, (part, choice) :: choices)
        | .error (.wrong message) => .error (message.toList, false)
        | .error .unknown =>
          .error (("invalid " ++ what ++ " numbering style: ").toList ++ Quoting.plain text, true)
      match letter with
      | 'h' => chosen .head "header"
      | 'b' => chosen .body "body"
      | 'f' => chosen .foot "footer"
      | 'v' =>
        let first ← amount lowest Number.greatest "invalid starting line number" text
        return ({ numbering with first }, choices)
      | 'i' =>
        let step ← amount lowest Number.greatest "invalid line number increment" text
        return ({ numbering with step }, choices)
      | 'l' =>
        let joined ← amount 1 Number.greatest "invalid line number of blank lines" text
        return ({ numbering with joined := joined.toNat }, choices)
      | 'w' =>
        let width ← amount 1 2147483647 "invalid line number field width" text
        return ({ numbering with width := width.toNat }, choices)
      | 's' => return ({ numbering with separator := text }, choices)
      | 'p' => return ({ numbering with isKept := true }, choices)
      | 'n' =>
        if ["ln", "rn", "rz"].contains (String.ofList text) then
          return ({ numbering with isLeft := text == ['l', 'n'], hasZeros := text == ['r', 'z'] },
            choices)
        else
          throw ("invalid line numbering format: ".toList ++ Quoting.plain text, true)
      | 'd' =>
        let mark := if text.length = 1 then text ++ [':'] else text
        return ({ numbering with mark }, choices)
      | _ => return (numbering, choices)) start
  let choice := fun (part : PagePart) ↦
    ((choices.find? (·.1 == part)).map (·.2)).getD .none
  return { numbering with choice }

/-- Numbers lines. -/
def nl : Utility :=
  ofOptions "nl" numberForm 1 fun task options ↦
    match Numbering.ofOptions options with
    | .error (text, hasHint) =>
      if hasHint then task.misuse 1 (String.ofList text) else task.complain 1 text
    | .ok numbering =>
      let operands := Task.operandsOrInput options.operands
      let start : Numbering.State := ⟨.body, some numbering.first, 0⟩
      let (_, written, isWhole) := (task.sources operands).foldl
        (fun (found : Numbering.State × List (Nat × Octets) × Bool) (operand, contents) ↦
          let (state, written, isWhole) := found
          if !isWhole then found
          else
            match contents with
            | .error error => (state, (2, task.refusal operand error) :: written, true)
            | .ok text =>
              let (state, shown, isWhole) := numbering.lines state (plainLines text)
              (state, (1, shown.flatten) :: written, isWhole)) (start, [], true)
      let overflow := if isWhole then [] else [(2, task.message "line number overflow".toList)]
      let written := written.reverse ++ overflow
      task.finishAll (if written.any (·.1 == 2) then 1 else 0) written
        (operands.any Task.isInput)

/-- The utilities that count and number. -/
def ofCounting : List Utility :=
  [wc, nl]

end Utility

end Scaffold.Shell
