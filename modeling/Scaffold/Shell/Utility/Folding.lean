import Scaffold.Shell.Utility.Amount

/-!
# Columns

`fold` breaks lines that take too many columns, `expand` puts blanks in the place of tabs, and
`unexpand` puts tabs in the place of blanks. A tab leads to the next one of the places that tabs
lead to (`TabStops.next?`).
-/

set_option autoImplicit false

namespace Scaffold.Shell

open Text (Octets)

/-! ### Breaking lines -/

/-- How lines are broken. -/
structure Folding where
  width : Nat
  countsOctets : Bool
  /-- A line is broken after a blank, if it has one. -/
  atBlanks : Bool

namespace Folding

/-- The column after an octet. -/
def advance (folding : Folding) (column : Nat) (c : Char) : Nat :=
  if folding.countsOctets then column + 1
  else if c = '\x08' then column - 1
  else if c = '\r' then 0
  else if c = '\t' then column / 8 * 8 + 8
  else column + 1

/-- A blank. -/
def isBlank (c : Char) : Bool :=
  c == ' ' || c == '\t'

/-- The finished octets, the last first; then the line so far, the last octet first, and its
column. -/
abbrev State := Octets × Octets × Nat

/-- Adds an octet to the line; `tries` bounds how often the line is broken before it. -/
def add (folding : Folding) (c : Char) : (tries : Nat) → State → State
  | 0, (finished, line, column) => (finished, c :: line, folding.advance column c)
  | tries + 1, (finished, line, column) =>
    let next := folding.advance column c
    if next ≤ folding.width then (finished, c :: line, next)
    else
      let word := line.takeWhile fun c ↦ !isBlank c
      if folding.atBlanks && word.length < line.length then
        let column := word.reverse.foldl folding.advance 0
        folding.add c tries ('\n' :: line.drop word.length ++ finished, word, column)
      else if line.isEmpty then (finished, [c], next)
      else folding.add c tries ('\n' :: line ++ finished, [], 0)

/-- Breaks the lines of a text. -/
def fold (folding : Folding) (text : Octets) : Octets :=
  let (finished, line, _) := text.foldl (fun (state : State) c ↦
    if c = '\n' then ('\n' :: state.2.1 ++ state.1, [], 0)
    else folding.add c (state.2.1.length + 2) state) ([], [], 0)
  (line ++ finished).reverse

end Folding

/-! ### Tabs -/

/-- The columns that tabs lead to: some places, and what follows the last of them. -/
structure TabStops where
  places : List Nat
  /-- After the places, tabs lead to multiples of this. -/
  multiple : Option Nat
  /-- After the places, tabs lead so far on from the last place each. -/
  step : Option Nat

namespace TabStops

/-- The column that a tab leads to; none after the last place. -/
def next? (stops : TabStops) (column : Nat) : Option Nat :=
  match stops.places with
  | [] =>
    let size := (stops.multiple <|> stops.step).getD 8
    some (column / size * size + size)
  | places =>
    match places.find? fun place ↦ column < place, stops.multiple, stops.step with
    | some place, _, _ => some place
    | none, some size, _ => some (column / size * size + size)
    | none, none, some size =>
      let last := places.getLastD 0
      some (column + (size - (column - last) % size))
    | none, none, none =>
      match places with
      | [size] => some (column / size * size + size)
      | _ => none

/-- A list of places as it is read: the mark in front of the number that is being read, and that
number. -/
structure Reading where
  stops : TabStops
  mark : Option Char
  number : Option Nat

/-- Takes the number that was read. -/
def Reading.close (reading : Reading) : Except Octets Reading :=
  match reading.number, reading.mark with
  | none, _ => .ok reading
  | some value, some '/' =>
    if reading.stops.multiple.isSome then
      .error "'/' specifier only allowed with the last value".toList
    else .ok { reading with stops := { reading.stops with multiple := some value }, number := none }
  | some value, some _ =>
    if reading.stops.step.isSome then
      .error "'+' specifier only allowed with the last value".toList
    else .ok { reading with stops := { reading.stops with step := some value }, number := none }
  | some value, none =>
    let stops := { reading.stops with places := reading.stops.places ++ [value] }
    .ok { reading with stops, number := none }

/-- Reads a list of places. -/
def readOn (reading : Reading) : Octets → Except Octets Reading
  | [] => reading.close
  | c :: rest =>
    if c = ',' ∨ c = ' ' ∨ c = '\t' then do readOn (← reading.close) rest
    else if c = '/' ∨ c = '+' then
      if reading.number.isSome then
        .error ('\x27' :: c :: "' specifier not at start of number: ".toList ++
          Quoting.plain (c :: rest))
      else readOn { reading with mark := some c } rest
    else if c.isDigit then
      let value := reading.number.getD 0 * 10 + (c.toNat - '0'.toNat)
      readOn { reading with number := some value } rest
    else
      .error ("tab size contains invalid character(s): ".toList ++ Quoting.plain (c :: rest))

/-- Whether places go up, the first one not being zero. -/
def fault? : (before : Nat) → List Nat → Option Octets
  | _, [] => none
  | before, place :: rest =>
    if place = 0 then some "tab size cannot be 0".toList
    else if place ≤ before then some "tab sizes must be ascending".toList
    else fault? place rest

/-- Reads several lists of places. -/
def ofLists (lists : List Octets) : Except Octets TabStops := do
  let stops ← lists.foldlM (fun (stops : TabStops) text ↦ do
    return (← readOn ⟨stops, none, none⟩ text).stops) ⟨[], none, none⟩
  if let some fault := fault? 0 stops.places then throw fault
  if stops.multiple.isSome && stops.step.isSome then
    throw "'/' specifier is mutually exclusive with '+'".toList
  let positive := fun (size? : Option Nat) ↦ size?.filter (· > 0)
  return { stops with multiple := positive stops.multiple, step := positive stops.step }

/-- A line with blanks in the place of tabs; only of those at its start if `onlyFirst`. -/
def expand (stops : TabStops) (onlyFirst : Bool) (line : Octets) : Octets :=
  let (shown, _, _) := line.foldl (fun (state : Octets × Nat × Bool) c ↦
    let (shown, column, isOpen) := state
    if !isOpen then (c :: shown, column, false)
    else if c = '\t' then
      let next := (stops.next? column).getD (column + 1)
      (List.replicate (next - column) ' ' ++ shown, next, true)
    else
      let column := if c = '\x08' then column - 1 else column + 1
      (c :: shown, column, !onlyFirst || c == ' ')) ([], 0, true)
  shown.reverse

/-- A line in which blanks are made tabs, as far as it is read: what is shown, the last first; the
column; the blanks that wait, the last first; whether one of them stands just before a place;
whether a blank came before; and whether blanks are still looked at. -/
structure Packing where
  shown : Octets
  column : Nat
  waiting : Octets
  isSingle : Bool
  afterBlank : Bool
  isOpen : Bool

/-- Shows the blanks that wait, and an octet. -/
def Packing.release (packing : Packing) (onlyFirst : Bool) (c : Char) (isBlank : Bool) : Packing :=
  let waiting := packing.waiting.reverse
  let waiting := if waiting.length > 1 && packing.isSingle then '\t' :: waiting.drop 1 else waiting
  { packing with
    shown := c :: waiting.reverse ++ packing.shown, waiting := []
    isSingle := if waiting.isEmpty then packing.isSingle else false
    afterBlank := isBlank, isOpen := packing.isOpen && (!onlyFirst || isBlank) }

/-- Reads an octet. -/
def pack (stops : TabStops) (onlyFirst : Bool) (packing : Packing) (c : Char) : Packing :=
  if !packing.isOpen then { packing with shown := c :: packing.shown }
  else if c = ' ' ∨ c = '\t' then
    match stops.next? packing.column with
    | none => { packing with isOpen := false }.release onlyFirst c true
    | some next =>
      let kept := fun (packing : Packing) (waiting : Octets) ↦
        let first := waiting.getLast?.toList
        { packing with waiting := if packing.isSingle then first else [] }
      if c = '\t' then
        let waiting :=
          if packing.waiting.isEmpty then [] else packing.waiting.dropLast ++ ['\t']
        (kept { packing with column := next } waiting).release onlyFirst c true
      else
        let column := packing.column + 1
        if packing.afterBlank && column = next then
          let waiting := packing.waiting.dropLast ++ ['\t']
          (kept { packing with column } waiting).release onlyFirst '\t' true
        else
          { packing with
            column, waiting := c :: packing.waiting
            isSingle := packing.isSingle || column = next, afterBlank := true }
  else
    let column := if c = '\x08' then packing.column - 1 else packing.column + 1
    { packing with column }.release onlyFirst c false

/-- A line with tabs in the place of blanks; only of those at its start if `onlyFirst`. -/
def unexpand (stops : TabStops) (onlyFirst : Bool) (line : Octets) : Octets :=
  let packing := line.foldl (stops.pack onlyFirst) ⟨[], 0, [], false, true, true⟩
  let waiting := packing.waiting.reverse
  let waiting := if waiting.length > 1 && packing.isSingle then '\t' :: waiting.drop 1 else waiting
  packing.shown.reverse ++ waiting

end TabStops

namespace Utility

/-- Arguments where a number after a dash stands for the value of an option. -/
def numbersFor (option : Char) (arguments : List Octets) : List Octets :=
  let (options, operands) := arguments.span (· != ['-', '-'])
  options.map (fun word ↦
    match word with
    | '-' :: c :: rest => if c.isDigit then '-' :: option :: c :: rest else word
    | word => word) ++ operands

/-- Changes each line of the operands, or of the input. -/
def changeLines (task : Task) (operands : List Octets) (change : Octets → Octets) : Effect :=
  task.filtered operands fun text ↦ (wholeLines text).flatMap change

/-- Breaks long lines. -/
def fold : Utility where
  name := "fold"
  run task :=
    let utility := ofOptions "fold" ⟨['s', 'b'], ['w'],
      [("bytes", 'b'), ("spaces", 's'), ("width", 'w')], false⟩ 1 fun task options ↦
        let form : AmountForm := ⟨false, [], 1, 18446744073709551606, false⟩
        task.withAmount form 1 "invalid number of columns" ((options.value? 'w').getD ['8', '0'])
          fun width ↦
            task.filtered options.operands
              (Folding.fold ⟨width.toNat, options.has 'b', options.has 's'⟩)
    utility.run { task with arguments := numbersFor 'w' task.arguments }

/-- Puts blanks in the place of tabs. -/
def expand : Utility where
  name := "expand"
  run task :=
    let utility := ofOptions "expand" ⟨['i'], ['t'], [("tabs", 't'), ("initial", 'i')], false⟩ 1
      fun task options ↦
        match TabStops.ofLists (options.values 't') with
        | .error text => task.complain 1 text
        | .ok stops => changeLines task options.operands (stops.expand (options.has 'i'))
    utility.run { task with arguments := numbersFor 't' task.arguments }

/-- Puts tabs in the place of blanks. -/
def unexpand : Utility where
  name := "unexpand"
  run task :=
    let utility := ofOptions "unexpand" ⟨['a'], ['t'],
      [("tabs", 't'), ("all", 'a'), ("first-only", '\x01')], false⟩ 1 fun task options ↦
        match TabStops.ofLists (options.values 't') with
        | .error text => task.complain 1 text
        | .ok stops =>
          let onlyFirst := options.has '\x01' || !(options.has 'a' || options.has 't')
          changeLines task options.operands (stops.unexpand onlyFirst)
    utility.run { task with arguments := numbersFor 't' task.arguments }

/-- The utilities for columns. -/
def ofFolding : List Utility :=
  [fold, expand, unexpand]

end Utility

end Scaffold.Shell
