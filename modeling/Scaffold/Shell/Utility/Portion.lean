import Scaffold.Shell.Utility.Amount

/-!
# Portions of files

Utilities that show the start or the end of files: so many lines or octets, or all but so many.
-/

set_option autoImplicit false

namespace Scaffold.Shell

open Text (Octets)

/-- What to take of a text: so many octets or lines, or all but so many. -/
structure Portion where
  countsOctets : Bool
  count : Nat
  /-- The count is of what is left out. -/
  isRest : Bool
  /-- What ends a line. -/
  ending : Char
  deriving Repr

namespace Portion

/-- The units of a text that a portion counts. -/
def units (portion : Portion) (text : Octets) : List Octets :=
  if portion.countsOctets then text.map fun c ↦ [c]
  else
    let (lines, last) := partsOf (· == portion.ending) text
    lines.map (· ++ [portion.ending]) ++ (if last.isEmpty then [] else [last])

/-- A text in two: the part at its start that a portion asks for, and what follows. -/
def ofStart (portion : Portion) (text : Octets) : Octets × Octets :=
  let units := portion.units text
  let count := if portion.isRest then units.length - portion.count else portion.count
  ((units.take count).flatten, (units.drop count).flatten)

/-- The part at the end of a text that a portion asks for; a count of what is left out is one more
than that. -/
def ofEnd (portion : Portion) (text : Octets) : Octets :=
  let units := portion.units text
  let dropped := if portion.isRest then portion.count - 1 else units.length - portion.count
  (units.drop dropped).flatten

/-- The first ten lines, or the last ones. -/
def standard : Portion :=
  ⟨false, 10, false, '\n'⟩

end Portion

/-- How portions of files are shown. -/
structure PortionOrder where
  portion : Portion
  /-- Names are shown always, or never; none if they are for several files. -/
  showsNames : Option Bool
  operands : List Octets
  /-- What is told before. -/
  warnings : List String
  /-- The files are waited for to grow. -/
  follows : Bool

/-- What a wrong argument leads to. -/
structure PortionFault where
  text : Octets
  /-- It is told where to read more. -/
  hasHint : Bool

namespace PortionOrder

/-- The count that an option gives. -/
def count (octets : Bool) (text : Octets) : Except PortionFault Nat :=
  match AmountForm.counts.read text with
  | .ok value => .ok value.toNat
  | .error fault =>
    let kind := if octets then "bytes" else "lines"
    .error ⟨("invalid number of " ++ kind ++ ": ").toList ++ Quoting.plain text ++
      fault.addition.toList, false⟩

/-- A message with a hint. -/
def hinted {α : Type} (text : String) : Except PortionFault α :=
  .error ⟨text.toList, true⟩

/-- The name rule that letters ask for. -/
def nameRule (options : Options) : Option Bool :=
  (options.found.reverse.find? fun entry ↦ entry.1 == 'q' || entry.1 == 'v').map (·.1 == 'v')

/-- The order of `head` that letters give. -/
def ofStart (options : Options) : Except PortionFault PortionOrder := do
  let ending := if options.has 'z' then '\x00' else '\n'
  let portion ← options.found.foldlM (fun (portion : Portion) (letter, text) ↦
    if letter = 'n' ∨ letter = 'c' then do
      let isRest := text.head? == some '-'
      let text := if isRest then text.drop 1 else text
      return { portion with
        countsOctets := letter == 'c', count := ← count (letter == 'c') text, isRest }
    else if letter.isDigit then
      hinted ("invalid trailing option -- " ++ String.ofList [letter])
    else return portion) { Portion.standard with ending }
  return ⟨portion, nameRule options, options.operands, [], false⟩

/-- The form of the options of `head`. -/
def startForm : OptionForm where
  flags := ['q', 'v', 'z', '0', '1', '2', '3', '4', '5', '6', '7', '8', '9']
  valued := ['n', 'c']
  long := [("bytes", 'c'), ("lines", 'n'), ("quiet", 'q'), ("silent", 'q'), ("verbose", 'v'),
    ("zero-terminated", 'z')]
  stopsEarly := false

/-- The options that letters after a number stand for in front of all others. -/
def trailing (number : Octets) : Octets → Except PortionFault (List (Char × Octets))
  | letters => do
    let start : Bool × Option Char × List (Char × Octets) := (false, none, [])
    let (octets, unit, others) ← letters.foldlM (fun (octets, unit, others) letter ↦
      if letter = 'c' then return (true, none, others)
      else if letter = 'b' ∨ letter = 'k' ∨ letter = 'm' then
        return (true, some letter, others)
      else if letter = 'l' then return (false, unit, others)
      else if letter = 'q' ∨ letter = 'v' ∨ letter = 'z' then
        return (octets, unit, others ++ [(letter, [])])
      else hinted ("invalid trailing option -- " ++ String.ofList [letter])) start
    return (if octets then 'c' else 'n', number ++ unit.toList) :: others

/-- Reads the arguments of `head`. -/
def readStart (arguments : List Octets) : Except PortionFault PortionOrder := do
  let (old, arguments) ←
    match arguments with
    | ('-' :: c :: rest) :: others =>
      if c.isDigit then do
        let number := (c :: rest).takeWhile Char.isDigit
        let found ← trailing number ((c :: rest).drop number.length)
        let _ ← found.mapM fun entry ↦
          if entry.1 = 'n' ∨ entry.1 = 'c' then count (entry.1 == 'c') entry.2 else return 0
        pure (found, others)
      else pure ([], arguments)
    | arguments => pure ([], arguments)
  match Options.parse startForm arguments with
  | .error text => hinted text
  | .ok options => ofStart { options with found := old ++ options.found }

/-- The form of the options of `tail`. -/
def endForm : OptionForm where
  flags := ['f', 'F', 'q', 'v', 'z', '0', '1', '2', '3', '4', '5', '6', '7', '8', '9']
  valued := ['n', 'c', 's', '\x01', '\x02']
  long := [("bytes", 'c'), ("follow", 'f'), ("lines", 'n'), ("max-unchanged-stats", '\x02'),
    ("pid", '\x01'), ("quiet", 'q'), ("retry", '\x03'), ("silent", 'q'), ("sleep-interval", 's'),
    ("verbose", 'v'), ("zero-terminated", 'z')]
  stopsEarly := false

/-- The order that the first argument gives alone, as a count with letters; `rest` are the
others. -/
def oldEnd? (word : Octets) (rest : List Octets) : Except PortionFault (Option PortionOrder) := do
  let isAlone :=
    match rest with
    | [] => true
    | [['-', '-']] => true
    | [operand] => !(operand.head? == some '-' && operand.length > 1)
    | [['-', '-'], _] => true
    | _ => false
  let body := word.drop 1
  let isOld := isAlone &&
    (word.head? == some '+' || (word.head? == some '-' && !body.isEmpty && body != ['c']))
  if !isOld then return none
  let digits := body.takeWhile Char.isDigit
  let after := body.drop digits.length
  let (unit, after) : Option Char × Octets :=
    match after with
    | 'b' :: after => (some 'b', after)
    | 'c' :: after => (some 'c', after)
    | 'l' :: after => (none, after)
    | after => (none, after)
  let (follows, after) : Bool × Octets :=
    match after with
    | 'f' :: after => (true, after)
    | after => (false, after)
  if !after.isEmpty then return none
  let factor : Nat := if unit == some 'b' then 512 else 1
  let count : Nat := if digits.isEmpty then 10 else Text.digitsValue 10 digits
  if (count : Int) * factor > AmountForm.greatestWord then
    throw ⟨"invalid number: ".toList ++ Quoting.plain word ++
      ": Numerical result out of range".toList, false⟩
  let operands := if rest.head? == some ['-', '-'] then rest.drop 1 else rest
  let portion : Portion := ⟨unit.isSome, count * factor, word.head? == some '+', '\n'⟩
  return some ⟨portion, none, operands, [], follows⟩

/-- Reads the arguments of `tail`. -/
def readEnd (arguments : List Octets) : Except PortionFault PortionOrder := do
  let old? ←
    match arguments with
    | [] => pure none
    | word :: rest => oldEnd? word rest
  if let some order := old? then return order
  match Options.parse endForm arguments with
  | .error text => hinted text
  | .ok options =>
    let ending := if options.has 'z' then '\x00' else '\n'
    let portion ← options.found.foldlM (fun (portion : Portion) (letter, text) ↦
      if letter = 'n' ∨ letter = 'c' then do
        let isRest := text.head? == some '+'
        let text := if text.head? == some '-' then text.drop 1 else text
        return { portion with
          countsOctets := letter == 'c', count := ← count (letter == 'c') text
          isRest := portion.isRest || isRest }
      else if letter.isDigit then
        throw ⟨("option used in invalid context -- " ++ String.ofList [letter]).toList, false⟩
      else return portion) { Portion.standard with ending }
    let follows := options.has 'f' || options.has 'F'
    let ignored :=
      (if options.has '\x03' && !follows then
        ["--retry ignored; --retry is useful only when following"] else []) ++
      (if options.has '\x01' && !follows then
        ["PID ignored; --pid=PID is useful only when following"] else [])
    return ⟨portion, nameRule options, options.operands,
      ignored.map ("warning: " ++ ·), follows⟩

/-- Shows the portions of the files; `take` is the portion of a text with what follows it. -/
def carryOut (order : PortionOrder) (task : Task) (take : Octets → Octets × Octets) : Effect :=
  let operands := Task.operandsOrInput order.operands
  let showsNames := order.showsNames.getD (operands.length > 1)
  let step := fun (state : List (Nat × Octets) × Bool × Task) (operand : Octets) ↦
    let (written, isFirst, now) := state
    let shown := if operand = ['-'] then "standard input".toList else operand
    let header :=
      if showsNames then
        (if isFirst then [] else ['\n']) ++ "==> ".toList ++ shown ++ " <==\n".toList
      else []
    let name := if operand = ['-'] then shown else operand
    match now.contents operand with
    | .error .isDirectory =>
      let text := "error reading ".toList ++ Quoting.shell name ++ ": Is a directory".toList
      ((2, task.message text) :: (1, header) :: written, false, now)
    | .error error =>
      let text := "cannot open ".toList ++ Quoting.shell name ++
        (" for reading: " ++ error.reason).toList
      ((2, task.message text) :: written, isFirst, now)
    | .ok text =>
      let (part, rest) := take text
      let now := if Task.isInput operand then { now with input := rest } else now
      ((1, header ++ part) :: written, false, now)
  let (written, _, now) := operands.foldl step ([], true, task)
  let warnings := order.warnings.map fun text ↦ (2, task.message text.toList)
  let status := if written.any (·.1 == 2) then 1 else 0
  let effect : Effect := ⟨status, warnings ++ written.reverse, now.input, none, [], 0⟩
  if order.follows then { effect with duration := Effect.forever } else effect

/-- A wrong argument. -/
def refuse (task : Task) (fault : PortionFault) : Effect :=
  if fault.hasHint then task.misuse 1 (String.ofList fault.text) else task.complain 1 fault.text

end PortionOrder

namespace Utility

/-- Shows the start of files. -/
def head : Utility where
  name := "head"
  run task :=
    match PortionOrder.readStart task.arguments with
    | .error fault => PortionOrder.refuse task fault
    | .ok order => order.carryOut task fun text ↦
      let (part, rest) := order.portion.ofStart text
      (part, if task.readsFile then rest else [])

/-- Shows the end of files. -/
def tail : Utility where
  name := "tail"
  run task :=
    match PortionOrder.readEnd task.arguments with
    | .error fault => PortionOrder.refuse task fault
    | .ok order =>
      let portion := order.portion
      if portion.count = 0 && !portion.isRest && !order.follows then
        task.finishAll 0 (order.warnings.map fun text ↦ (2, task.message text.toList)) false
      else order.carryOut task fun text ↦ (portion.ofEnd text, [])

/-- The utilities that show portions. -/
def ofPortions : List Utility :=
  [head, tail]

end Utility

end Scaffold.Shell
