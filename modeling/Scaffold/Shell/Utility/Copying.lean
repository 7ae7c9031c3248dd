import Scaffold.Shell.Decimal
import Scaffold.Shell.Utility.Basic

/-!
# Copying and counting

Utilities that copy their input as a whole or in part, and those that count it.
-/

set_option autoImplicit false

namespace Scaffold.Shell.Utility

open Text (Octets)

/-! ### Copies with marks -/

/-- How a copy shows what it copies. -/
structure CopyStyle where
  numbersAll : Bool
  numbersFull : Bool
  squeezes : Bool
  showsEnds : Bool
  showsTabs : Bool
  showsOthers : Bool

namespace CopyStyle

/-- The style that letters ask for. -/
def ofOptions (options : Options) : CopyStyle :=
  let has := fun (letters : List Char) ↦ letters.any options.has
  { numbersAll := has ['n'] && !has ['b']
    numbersFull := has ['b']
    squeezes := has ['s']
    showsEnds := has ['e', 'E', 'A']
    showsTabs := has ['t', 'T', 'A']
    showsOthers := has ['v', 'e', 't', 'A'] }

/-- Nothing is changed. -/
def isPlain (style : CopyStyle) : Bool :=
  !(style.numbersAll || style.numbersFull || style.squeezes || style.showsEnds ||
    style.showsTabs || style.showsOthers)

/-- An octet that ends no line, made visible. -/
def octet (style : CopyStyle) (c : Char) : Octets :=
  if c = '\t' then if style.showsTabs then ['^', 'I'] else ['\t']
  else if !style.showsOthers then [c]
  else if c.toNat < 32 then ['^', Char.ofNat (c.toNat + 64)]
  else if c.toNat = 127 then ['^', '?']
  else if c.toNat > 127 then
    let low := c.toNat - 128
    if low < 32 then ['M', '-', '^', Char.ofNat (low + 64)]
    else if low = 127 then ['M', '-', '^', '?'] else ['M', '-', Char.ofNat low]
  else [c]

end CopyStyle

/-- Where a copy is: the number of the last line, how many ends of lines came just before (none
inside a line), and whether a carriage return waits for what follows it. -/
structure CopyState where
  number : Nat
  ends : Option Nat
  isReturning : Bool

namespace CopyState

/-- The number of a line and a tab. -/
def label (number : Nat) : Octets :=
  let digits := Number.digits 10 number
  List.replicate (6 - digits.length) ' ' ++ digits ++ ['\t']

/-- Copies an end of a line. -/
def stepEnd (style : CopyStyle) (state : CopyState) : CopyState × Octets :=
  let mark := if style.showsEnds then ['$', '\n'] else ['\n']
  let waiting := if state.isReturning then ['^', 'M'] else []
  match state.ends with
  | none => (⟨state.number, some 0, false⟩, waiting ++ mark)
  | some count =>
    let ends := some (min 2 (count + 1))
    if count ≥ 1 && style.squeezes then ({ state with ends }, [])
    else if style.numbersAll then
      (⟨state.number + 1, ends, false⟩, label (state.number + 1) ++ waiting ++ mark)
    else (⟨state.number, ends, false⟩, waiting ++ mark)

/-- Copies an octet. -/
def step (style : CopyStyle) (state : CopyState) (c : Char) : CopyState × Octets :=
  if c = '\n' then state.stepEnd style
  else
    let waiting := if state.isReturning then ['\r'] else []
    let isNumbered := state.ends.isSome && (style.numbersAll || style.numbersFull)
    let number := if isNumbered then state.number + 1 else state.number
    let lead := waiting ++ (if isNumbered then label number else [])
    if c = '\r' ∧ style.showsEnds ∧ !style.showsOthers then (⟨number, none, true⟩, lead)
    else (⟨number, none, false⟩, lead ++ style.octet c)

/-- Copies a text. -/
def copy (style : CopyStyle) (state : CopyState) (text : Octets) : CopyState × Octets :=
  let (state, parts) := text.foldl (fun (found : CopyState × List Octets) c ↦
    let (state, shown) := found.1.step style c
    (state, shown :: found.2)) (state, [])
  (state, parts.reverse.flatten)

end CopyState

/-- Copies files. -/
def cat : Utility :=
  ofOptions "cat"
    { flags := ['A', 'b', 'e', 'E', 'n', 's', 't', 'T', 'u', 'v']
      valued := []
      long := [("number-nonblank", 'b'), ("number", 'n'), ("squeeze-blank", 's'),
        ("show-nonprinting", 'v'), ("show-ends", 'E'), ("show-tabs", 'T'), ("show-all", 'A')]
      stopsEarly := false } 1 fun task options ↦
    let style := CopyStyle.ofOptions options
    let operands := Task.operandsOrInput options.operands
    let (state, written) := (task.sources operands).foldl
      (fun (found : CopyState × List (Nat × Octets)) (operand, contents) ↦
        let (state, written) := found
        match contents with
        | .error error => (state, (2, task.refusal operand error) :: written)
        | .ok text =>
          if task.feedsItself operand then
            let name := Quoting.shellIfNeeded operand
            (state, (2, task.message (name ++ ": input file is output file".toList)) :: written)
          else if style.isPlain then (state, (1, text) :: written)
          else
            let (state, shown) := state.copy style text
            (state, (1, shown) :: written)) (⟨0, some 0, false⟩, [])
    let rest := if state.isReturning then [(1, ['\r'])] else []
    task.finishAll (if written.any (·.1 == 2) then 1 else 0) (written.reverse ++ rest)
      (operands.any Task.isInput)

/-- What `tee` does where it cannot write. -/
def teeModes : List (String × Nat) :=
  [("warn", 0), ("warn-nopipe", 1), ("exit", 2), ("exit-nopipe", 3)]

/-- Copies the input to files as well. -/
def tee : Utility :=
  ofOptions "tee"
    { flags := ['a', 'i', 'p']
      valued := []
      long := [("append", 'a'), ("ignore-interrupts", 'i'), ("output-error", 'p')]
      stopsEarly := false } 1 fun task options ↦
    let modes := (options.values 'p').filter fun text ↦ !text.isEmpty
    match modes.mapM (choice "--output-error" teeModes) with
    | .error text => task.misuse 1 text
    | .ok _ =>
    let streams : List (String × Nat) :=
      [("/dev/stdout", 1), ("/dev/stderr", 2), ("/dev/fd/1", 1), ("/dev/fd/2", 2)]
    let copies := options.operands.filterMap fun operand ↦
      (streams.lookup (Octets.toText operand)).map fun descriptor ↦ (descriptor, task.input)
    let operands := options.operands.filter fun operand ↦
      (streams.lookup (Octets.toText operand)).isNone
    let effect := task.forEach operands fun tree operand ↦
      let before :=
        if options.has 'a' then
          match tree.read task.here (pathOf operand) with
          | .ok octets => Octets.ofBytes octets
          | .error _ => []
        else []
      (task.store tree operand (before ++ task.input)).mapError fun error ↦
        operand ++ Octets.ofText (": " ++ error.reason)
    { effect with written := effect.written ++ (1, task.input) :: copies, input := [] }

/-- The longest time in milliseconds. -/
def longestTime : Float := 1e15

/-- The milliseconds of a time: a number with a unit. -/
def duration? (text : Octets) : Option Nat := do
  let (isNegative, body) := Number.sign (Number.dropBlanks text)
  let (value, unit) ← Decimal.unsigned? body
  let factor ← ([([], 1.0), (['s'], 1.0), (['m'], 60.0), (['h'], 3600.0), (['d'], 86400.0)] :
    List (Octets × Float)).lookup unit
  let time := value * factor * 1000
  if time.isNaN || (isNegative && time > 0) then none
  else return (min time longestTime).toUInt64.toNat

/-- Waits for the sum of the given times. -/
def sleep : Utility where
  name := "sleep"
  run task :=
    match Options.parse ⟨[], [], [], true⟩ task.arguments with
    | .error text => task.misuse 1 text
    | .ok options =>
      match options.operands.mapM duration? with
      | some [] => task.misuse 1 "missing operand"
      | some times => { task.finish 0 [] with duration := times.foldl (· + ·) 0 }
      | none =>
        let wrong := options.operands.filter fun text ↦ (duration? text).isNone
        let shown := wrong.map fun text ↦ "invalid time interval ".toList ++ Quoting.plain text
        task.misuse 1 (Octets.toText ((shown.intersperse "\nsleep: ".toList).flatten))

/-- The utilities that copy and count. -/
def copying : List Utility :=
  [cat, tee, sleep]

end Scaffold.Shell.Utility
