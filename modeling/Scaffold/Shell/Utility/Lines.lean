import Scaffold.Shell.Printing
import Scaffold.Shell.Utility.Copying

/-!
# Lines out of nothing

`seq` counts in steps from one number to another one (`Progression`), and `yes` repeats a line. How
wide the numbers are, and how many places they have, follows from how their bounds are written
(`Bound.ofText?`), unless they have a form of their own (`CountForm`).
-/

set_option autoImplicit false

namespace Scaffold.Shell

open Text (Octets)

/-! ### Bounds -/

/-- A number as it is written: its value, how wide its text is, and how many places it has if that
can be seen. -/
structure Bound where
  value : Decimal
  width : Int
  places : Option Int

namespace Bound

/-- The number one. -/
def one : Bound :=
  ⟨.ratio false 1 1, 1, some 0⟩

/-- How many octets stand in front of the first of some. -/
def placeOf? (marks : List Char) (text : Octets) : Option Nat :=
  let before := text.takeWhile fun c ↦ !(marks.contains c)
  if before.length = text.length then none else some before.length

/-- The bound in decimal digits that a text is, as it is without an exponent: how wide it is, how
many places it has, and how many octets stand behind its point. -/
def plain (text : Octets) : Int × Option Int × Option Nat :=
  match placeOf? ['.'] text with
  | none => (text.length, if text.contains 'p' then none else some 0, none)
  | some point =>
    let fraction := ((text.drop (point + 1)).takeWhile fun c ↦ c != 'e' && c != 'E').length
    let hasDigit := point > 0 && (text.getD (point - 1) ' ').isDigit
    let change : Int := if fraction = 0 then -1 else if hasDigit then 0 else 1
    (text.length + change, some fraction, some fraction)

/-- The bound that a text without blanks in front is, of which the value is known. -/
def ofValue (value : Decimal) (text : Octets) : Bound :=
  let isFinite := match value with
    | .ratio _ _ _ => true
    | _ => false
  if (placeOf? ['x', 'X'] text).isSome || !isFinite then
    ⟨value, 0, if text.contains '.' || text.contains 'p' then none else some 0⟩
  else
    let (width, places, fraction?) := plain text
    let fraction : Int := fraction?.getD 0
    match (placeOf? ['e'] text).or (placeOf? ['E'] text) with
    | none => ⟨value, width, places⟩
    | some mark =>
      let exponent := ((Number.leading? (text.drop (mark + 1))).map (·.1)).getD 0
      let places := places.map fun places ↦
        places + if exponent < 0 then -exponent else -(min places exponent)
      let width := width - (text.length - mark)
      if exponent < 0 then
        let isUndone := fraction?.isNone || fraction = 0
        ⟨value, width + (if isUndone then 1 else 0) - exponent, places⟩
      else
        let isWhole := fraction > 0 && places == some 0
        ⟨value, width - (if isWhole then 1 else 0) + (exponent - min fraction exponent), places⟩

/-- The bound that a text is, or what is wrong with it. -/
def read (text : Octets) : Except String Bound :=
  let quoted := Octets.toText (Quoting.plain text)
  match Extended.leading? text with
  | some (.undefined, []) => .error ("invalid 'not-a-number' argument: " ++ quoted)
  | some (value, []) =>
    let isHuge := match value with
      | .infinite _ => text.any Char.isDigit
      | _ => false
    if isHuge then .error ("invalid floating point argument: " ++ quoted)
    else .ok (ofValue value (text.dropWhile fun c ↦ c.isWhitespace || c == '+'))
  | _ => .error ("invalid floating point argument: " ++ quoted)

end Bound

/-! ### Forms -/

/-- A form with a place for one number. -/
structure CountForm where
  before : Octets
  directive : Printing.Directive
  after : Octets

namespace CountForm

/-- The text before the first directive of a form, and what follows its percent sign. -/
def lead? : Octets → Option (Octets × Octets)
  | [] => none
  | '%' :: '%' :: rest => (lead? rest).map fun (text, directive) ↦ ('%' :: text, directive)
  | '%' :: rest => some ([], rest)
  | c :: rest => (lead? rest).map fun (text, directive) ↦ (c :: text, directive)

/-- The text behind the directive, unless there is another one in it. -/
def tail? : Octets → Option Octets
  | [] => some []
  | '%' :: '%' :: rest => (tail? rest).map ('%' :: ·)
  | '%' :: _ => none
  | c :: rest => (tail? rest).map (c :: ·)

/-- Reads a form. -/
def read (text : Octets) : Except Octets CountForm :=
  let shown := "format ".toList ++ Quoting.plain text
  match lead? text with
  | none => .error (shown ++ " has no % directive".toList)
  | some (before, rest) =>
    let flags := rest.takeWhile "-+#0 '".toList.contains
    let rest := rest.drop flags.length
    let width := rest.takeWhile Char.isDigit
    let rest := rest.drop width.length
    let (precision, rest) :=
      match rest with
      | '.' :: rest =>
        let digits := rest.takeWhile Char.isDigit
        (some (Text.digitsValue 10 digits), rest.drop digits.length)
      | rest => (none, rest)
    let rest := if rest.head? = some 'L' then rest.drop 1 else rest
    match rest with
    | [] => .error (shown ++ " ends in %".toList)
    | conversion :: rest =>
      if !"efgaEFGA".toList.contains conversion then
        .error (shown ++ " has unknown %".toList ++ conversion :: " directive".toList)
      else
        match tail? rest with
        | none => .error (shown ++ " has too many % directives".toList)
        | some after =>
          .ok ⟨before, ⟨flags, Text.digitsValue 10 width, precision, conversion⟩, after⟩

/-- The form that follows from the bounds. -/
def ofBounds (isEven : Bool) (first step last : Bound) : CountForm :=
  match first.places, step.places, last.places with
  | some start, some gap, some stop =>
    let places := max start gap
    let left := first.width + (places - start) + (if start = 0 ∧ places > 0 then 1 else 0)
    let right := last.width + (places - stop) - (if stop > 0 ∧ places = 0 then 1 else 0) +
      (if stop = 0 ∧ places > 0 then 1 else 0)
    let width := if isEven then (max left right).toNat else 0
    ⟨[], ⟨if isEven then ['0'] else [], width, some places.toNat, 'f'⟩, []⟩
  | _, _, _ => ⟨[], ⟨[], 0, none, 'g'⟩, []⟩

/-- The number in its form, without what stands before and after it. -/
def number (form : CountForm) (value : Decimal) : Octets :=
  form.directive.broken .full value

/-- The number in its form. -/
def text (form : CountForm) (value : Decimal) : Octets :=
  form.before ++ form.number value ++ form.after

end CountForm

/-! ### Counting -/

/-- A number is smaller than another one. -/
def Decimal.isBelow : Decimal → Decimal → Bool
  | ratio isNegative above below, ratio otherIsNegative otherAbove otherBelow =>
    let signed := fun (isNegative : Bool) (size : Nat) ↦
      let value : Int := size
      if isNegative then -value else value
    signed isNegative (above * otherBelow) < signed otherIsNegative (otherAbove * below)
  | infinite isNegative, infinite otherIsNegative => isNegative && !otherIsNegative
  | infinite isNegative, ratio _ _ _ => isNegative
  | ratio _ _ _, infinite isNegative => !isNegative
  | _, _ => false

/-- Numbers from a first one on by steps up to a last one, if there is one. -/
structure Progression where
  first : Decimal
  step : Decimal
  last : Decimal

namespace Progression

/-- The number after so many steps. -/
def value (numbers : Progression) (count : Nat) : Decimal :=
  match numbers.first, numbers.step with
  | .ratio isNegative above below, .ratio goesDown rise run =>
    (Extended.add ⟨isNegative, above, below⟩
      (Extended.multiply (.ofInt count) ⟨goesDown, rise, run⟩)).toDecimal
  | .infinite isNegative, .infinite goesDown =>
    if isNegative = goesDown then .infinite isNegative else .undefined
  | .infinite isNegative, _ => .infinite isNegative
  | _, step => step

/-- The steps go down. -/
def goesDown (numbers : Progression) : Bool :=
  numbers.step.isBelow (.ratio false 0 1)

/-- The number lies behind the last one. -/
def isPassed (numbers : Progression) (value : Decimal) : Bool :=
  if numbers.goesDown then value.isBelow numbers.last else numbers.last.isBelow value

/-- A number that has passed the last one is still counted if its text is the last one's, and not
that of the number before. -/
def isKept (numbers : Progression) (form : CountForm) (before value : Decimal) : Bool :=
  let text := form.number value
  let isLast :=
    match Extended.leading? text with
    | some (number, []) => !number.isBelow numbers.last && !numbers.last.isBelow number
    | _ => false
  isLast && form.number before != text

/-- The texts of the numbers after so many steps, at most `left` of them, behind those that are
shown already, the last one first. -/
def texts (numbers : Progression) (form : CountForm) :
    (left : Nat) → (count : Nat) → (value : Decimal) → (shown : List Octets) → List Octets
  | 0, _, _, shown => shown
  | left + 1, count, value, shown =>
    let shown := form.text value :: shown
    let next := numbers.value (count + 1)
    if !numbers.isPassed next then texts numbers form left (count + 1) next shown
    else if numbers.isKept form value next then form.text next :: shown else shown

/-- Whole numbers by steps, at most `left` of them, behind those that are shown already, the last
one first. -/
def wholeTexts (step : Nat) (last : Option Nat) :
    (left : Nat) → (value : Nat) → (shown : List Octets) → List Octets
  | 0, _, shown => shown
  | left + 1, value, shown =>
    if last.any (· < value) then shown
    else wholeTexts step last left (value + step) (Number.digits 10 value :: shown)

end Progression

namespace Utility

/-- The form of the options of `seq`. -/
def countForm : OptionForm where
  flags := ['w']
  valued := ['s', 'f']
  long := [("equal-width", 'w'), ("separator", 's'), ("format", 'f')]
  stopsEarly := true

/-- The option takes the next word as its value. -/
def takesNext : Octets → Bool
  | '-' :: '-' :: name =>
    !name.contains '=' && (name.head? == some 's' || name.head? == some 'f')
  | '-' :: letters => (Bound.placeOf? ['s', 'f'] letters).any (· + 1 == letters.length)
  | _ => false

/-- The arguments with a mark in front of the first operand, which may be a negative number. -/
def withMark : List Octets → List Octets
  | [] => []
  | word :: rest =>
    if word = ['-', '-'] then word :: rest
    else if word.head? ≠ some '-' || word.length = 1 ||
        (word.drop 1).head?.any (fun c ↦ c.isDigit || c == '.') then
      ['-', '-'] :: word :: rest
    else if takesNext word then
      match rest with
      | value :: rest => word :: value :: withMark rest
      | [] => [word]
    else word :: withMark rest

/-- The bounds that operands are, and what is wrong with the first wrong one. -/
def boundsOf : List Octets → Except String (Bound × Bound × Bound)
  | [first, step, last] => do
    let start ← Bound.read first
    let gap ← Bound.read step
    match gap.value with
    | .ratio _ 0 _ =>
      throw ("invalid Zero increment value: " ++ Octets.toText (Quoting.plain step))
    | _ => return (start, gap, ← Bound.read last)
  | [first, last] => do return (← Bound.read first, .one, ← Bound.read last)
  | words => do return (.one, .one, ← Bound.read (words.headD []))

/-- The whole number that a bound is if it has no places and no minus. -/
def wholeOf? (bound : Bound) : Option Nat :=
  match bound.value, bound.places with
  | .ratio false above below, some 0 => some (Decimal.nearest above below)
  | _, _ => none

/-- How many numbers are shown at most. -/
def mostNumbers : Nat := 1000000

/-- Counts. -/
def seq : Utility where
  name := "seq"
  run task :=
    match Options.parse countForm (withMark task.arguments) with
    | .error text => task.misuse 1 text
    | .ok options =>
      match options.operands, (options.value? 'f').mapM CountForm.read with
      | [], _ => task.misuse 1 "missing operand"
      | _ :: _ :: _ :: extra :: _, _ =>
        task.misuse 1 ("extra operand " ++ Octets.toText (Quoting.plain extra))
      | _, .error fault => task.complain 1 fault
      | operands, .ok form? =>
        let isEven := options.has 'w'
        let separator := (options.value? 's').getD ['\n']
        let isPlain := !isEven && form?.isNone && separator.length = 1
        if form?.isSome && isEven then
          task.misuse 1 "format string may not be specified when printing equal width strings"
        else
          match boundsOf operands with
          | .error text => task.misuse 1 text
          | .ok (first, step, last) =>
            let numbers : Progression := ⟨first.value, step.value, last.value⟩
            let isEndless := last.value == .infinite numbers.goesDown
            let form := form?.getD (.ofBounds isEven first step last)
            -- Digits alone stand for themselves, however many there are.
            let isExact := operands.all fun word ↦ (Number.plain? word).isSome
            let whole := fun (bound : Bound) (word? : Option Octets) ↦
              if isExact then word?.bind Number.plain? else wholeOf? bound
            let start := if operands.length < 2 then some 1 else whole first operands.head?
            let stop := if isEndless then none else whole last operands.getLast?
            let room := if isEndless then 120000 else mostNumbers
            let texts :=
              match start, wholeOf? step, stop, isPlain with
              | some start, some step, some stop, true =>
                Progression.wholeTexts step (some stop) room start []
              | some start, some step, none, true =>
                if isEndless then Progression.wholeTexts step none room start []
                else if numbers.isPassed first.value then []
                else numbers.texts form room 0 first.value []
              | _, _, _, _ =>
                if numbers.isPassed first.value then []
                else numbers.texts form room 0 first.value []
            let output :=
              if texts.isEmpty then []
              else (texts.reverse.intersperse separator).flatten ++ ['\n']
            { task.finish 0 output with duration := if isEndless then Effect.forever else 0 }

/-- Prints a line again and again. -/
def yes : Utility :=
  ofOptions "yes" ⟨[], [], [], false⟩ 1 fun task options ↦
    let words := if options.operands.isEmpty then [['y']] else options.operands
    let line := (words.intersperse [' ']).flatten ++ ['\n']
    let count := 600000 / line.length + 1
    { task.finish 0 (List.replicate count line).flatten with duration := Effect.forever }

/-- The utilities for lines. -/
def ofLines : List Utility :=
  [seq, yes]

end Utility

end Scaffold.Shell
