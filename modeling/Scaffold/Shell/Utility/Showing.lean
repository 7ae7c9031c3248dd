import Scaffold.Shell.Search.Dialect
import Scaffold.Shell.Utility.Amount
import Scaffold.Shell.Utility.Basic

/-!
# The other way round

`tac` shows the records of a file from the last to the first one, and `rev` turns lines round.
-/

set_option autoImplicit false

namespace Scaffold.Shell.Utility

open Text (Octets)

/-- Where separators stand in a text: their starts and ends, the last first. -/
abbrev Separators := List (Nat × Nat)

/-- The places where a text goes on with a separator, the last first. -/
def separatorStarts (text separator : Octets) : List Nat :=
  let (found, _, _) := text.foldl (fun (state : List Nat × Octets × Nat) _ ↦
    let (found, rest, index) := state
    (if separator.isPrefixOf rest then index :: found else found, rest.drop 1, index + 1))
    ([], text, 0)
  found

/-- The places of a text that stand for a separator, found from the end on so that none overlap. -/
def separators (text separator : Octets) : Separators :=
  let length := separator.length
  let (found, _) := (separatorStarts text separator).foldl
    (fun (state : Separators × Option Nat) start ↦
      let (found, last) := state
      if last.all fun last ↦ start + length ≤ last then
        ((start, start + length) :: found, some start)
      else state) ([], none)
  found.reverse

/-- The places of lines' ends in a text, the last first. -/
def lineEnds (text : Octets) : Separators :=
  text.zipIdx.foldl (fun found (c, index) ↦
    if c = '\n' then (index, index + 1) :: found else found) []

/-- The places of a text that fit an expression, looked for backwards in what comes before the last
one that was found. -/
def fittingSeparators (sought : Sought) (text : Octets) : Separators :=
  let rec go : (left : Nat) → Octets → Separators
    | 0, _ => []
    | left + 1, before =>
      let last := (Place.start before).skip (before.length - 1)
      let found? := if before.isEmpty then none
        else last.backwards.findSome? sought.matchAt
      match found? with
      | none => []
      | some found =>
        (found.start.index, found.finish.index) :: go left (before.take found.start.index)
  go (text.length + 1) text

/-- The parts of a text between places, which follow one another; the text starts at a place. -/
def cutAt (start : Nat) (places : List Nat) (text : Octets) : List Octets :=
  let (parts, rest, _) := places.foldl (fun (state : List Octets × Octets × Nat) place ↦
    let (parts, rest, start) := state
    (rest.take (place - start) :: parts, rest.drop (place - start), place)) ([], text, start)
  (rest :: parts).reverse

/-- The records of a text, the last first. -/
def recordsBackwards (isBefore : Bool) (text : Octets) (places : Separators) : List Octets :=
  let cuts := if isBefore then places.map (·.1) else places.map (·.2)
  let cuts := if !isBefore && cuts.head? == some text.length then cuts.drop 1 else cuts
  (cutAt 0 cuts.reverse text).reverse

/-- Ends with messages in front of all else that is written. -/
def spoken (task : Task) (operands : List Octets) (written : List (Nat × Octets)) : Effect :=
  let (messages, texts) := written.partition (·.1 == 2)
  task.finishAll (if messages.isEmpty then 0 else 1) (messages ++ texts)
    (operands.any Task.isInput)

/-- Shows records from the last to the first. -/
def tac : Utility :=
  ofOptions "tac" ⟨['b', 'r'], ['s'], [("before", 'b'), ("regex", 'r'), ("separator", 's')],
    false⟩ 1 fun task options ↦
    let separator := (options.value? 's').getD ['\n']
    let places? : Except Octets (Octets → Separators) :=
      if options.has 'r' then
        if separator.isEmpty then .error "separator cannot be empty".toList
        else
          match Dialect.editor.sought false separator with
          | .ok sought => .ok (fittingSeparators sought)
          | .error fault => .error fault.message.toList
      else if separator = ['\n'] then .ok lineEnds
      else .ok (separators · (if separator.isEmpty then ['\x00'] else separator))
    match places? with
    | .error text => task.complain 1 text
    | .ok places =>
      let operands := Task.operandsOrInput options.operands
      let written := (task.sources operands).map fun (operand, contents) ↦
        match contents with
        | .ok text => (1, (recordsBackwards (options.has 'b') text (places text)).flatten)
        | .error .isDirectory =>
          (2, task.message (Quoting.shellIfNeeded operand ++ ": read error: Is a directory".toList))
        | .error error =>
          (2, task.message ("failed to open ".toList ++ Quoting.shell operand ++
            (" for reading: " ++ error.reason).toList))
      spoken task operands written

/-- Turns lines round. -/
def rev : Utility :=
  ofOptions "rev" ⟨['0'], [], [("zero", '0')], false⟩ 1 fun task options ↦
    let ending := if options.has '0' then '\x00' else '\n'
    let turned := fun (text : Octets) ↦
      let (lines, last) := partsOf (· == ending) text
      lines.flatMap (fun line ↦ line.reverse ++ [ending]) ++ last.reverse
    let operands := Task.operandsOrInput options.operands
    let written := (task.sources operands).map fun (operand, contents) ↦
      match contents with
      | .ok text => (1, turned text)
      | .error error =>
        (2, task.message ("cannot open ".toList ++ operand ++ (": " ++ error.reason).toList))
    spoken task operands written

/-- The utilities that turn things round. -/
def ofReversing : List Utility :=
  [tac, rev]

end Scaffold.Shell.Utility
