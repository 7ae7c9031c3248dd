import Scaffold.Shell.Utility.Amount
import Scaffold.Shell.Utility.Basic

/-!
# Lines that repeat

`uniq` looks for lines that are alike and follow one another (`Likeness`), and shows such a group
once, whole or not at all.
-/

set_option autoImplicit false

namespace Scaffold.Shell

open Text (Octets)

/-- Which parts of lines are compared. -/
structure Likeness where
  fields : Nat
  octets : Nat
  /-- So many octets count at most. -/
  most : Option Nat
  ignoresCase : Bool

namespace Likeness

/-- The part of a line that counts. -/
def key (likeness : Likeness) (line : Octets) : Octets :=
  let isBlank := fun (c : Char) ↦ c == ' ' || c == '\t' || c == '\n'
  let rec skip : Nat → Octets → Octets
    | 0, line => line
    | fields + 1, line => skip fields ((line.dropWhile isBlank).dropWhile fun c ↦ !isBlank c)
  let line := (skip (min likeness.fields line.length) line).drop likeness.octets
  let line := (likeness.most.map line.take).getD line
  if likeness.ignoresCase then line.map Char.toUpper else line

/-- The groups of lines that are alike and follow one another. -/
def groups (likeness : Likeness) (lines : List Octets) : List (List Octets) :=
  let keyed := lines.map fun line ↦ (likeness.key line, line)
  let grouped := keyed.foldr (fun (key, line) (found : List (Octets × List Octets)) ↦
    match found with
    | (other, group) :: rest =>
      if key == other then (key, line :: group) :: rest else (key, [line]) :: found
    | [] => [(key, [line])]) []
  grouped.map (·.2)

end Likeness

/-- Where empty lines stand between groups. -/
inductive GroupMarks
  | none
  | prepend
  | append
  | separate
  | both
  deriving DecidableEq, Repr

/-- Which lines of groups are shown. -/
structure GroupView where
  counts : Bool
  /-- Lines without a like are. -/
  showsSingle : Bool
  /-- The first, or last, line of several is. -/
  showsFirst : Bool
  /-- All of several are, but for one of them. -/
  showsOthers : Bool
  marks : GroupMarks

namespace GroupView

/-- The lines that are shown of a group. -/
def show_ (view : GroupView) (group : List Octets) : List Octets :=
  if group.length ≤ 1 then
    if !view.showsSingle then []
    else if view.counts then group.map ("      1 ".toList ++ ·) else group
  else if view.showsOthers then if view.showsFirst then group else group.dropLast
  else if !view.showsFirst then []
  else if view.counts then
    let digits := Number.digits 10 group.length
    (group.take 1).map fun line ↦
      List.replicate (7 - digits.length) ' ' ++ digits ++ ' ' :: line
  else group.take 1

/-- The lines that are shown where groups of several lines are kept apart. -/
def apart (view : GroupView) (groups : List (List Octets)) : List Octets :=
  (groups.foldl (fun (state : List (List Octets) × Bool) group ↦
    let (shown, isFirst) := state
    if group.length ≤ 1 then (view.show_ group :: shown, isFirst)
    else
      let mark := view.marks = .prepend || (view.marks = .separate && !isFirst)
      (((if mark then [[]] else []) ++ view.show_ group) :: shown, false))
    ([], true)).1.reverse.flatten

/-- All lines, with marks between the groups. -/
def marked (marks : GroupMarks) (groups : List (List Octets)) : List Octets :=
  let shown := groups.zipIdx.flatMap fun (group, index) ↦
    let mark := marks = .prepend || marks = .both || index > 0
    (if mark then [[]] else []) ++ group
  if !groups.isEmpty && (marks = .both || marks = .append) then shown ++ [[]] else shown

end GroupView

namespace Utility

/-- The marks by their names, for groups of several lines. -/
def repeatMarks : List (String × GroupMarks) :=
  [("none", .none), ("prepend", .prepend), ("separate", .separate)]

/-- The marks by their names, for all groups. -/
def groupMarks : List (String × GroupMarks) :=
  [("prepend", .prepend), ("append", .append), ("separate", .separate), ("both", .both)]

/-- The form of the options of `uniq`. -/
def uniqForm : OptionForm where
  flags := ['c', 'd', 'u', 'i', 'D', 'z', '0', '1', '2', '3', '4', '5', '6', '7', '8', '9']
  valued := ['f', 's', 'w']
  long := [("count", 'c'), ("repeated", 'd'), ("all-repeated", 'D'), ("group", '\x01'),
    ("ignore-case", 'i'), ("unique", 'u'), ("skip-fields", 'f'), ("skip-chars", 's'),
    ("check-chars", 'w'), ("zero-terminated", 'z')]
  stopsEarly := false

/-- What `uniq` compares and shows; a fault is a message, with whether it is told where to read
more.
-/
def uniqPlan (options : Options) : Except (String × Bool) (Likeness × GroupView) := do
  let size := fun (letter : Char) (what : String) ↦
    match options.value? letter with
    | none => .ok none
    | some text =>
      match Number.plain? (Number.dropBlanks text) with
      | some value => .ok (some value)
      | none => .error (String.ofList text ++ ": invalid number of " ++ what, false)
  let fields ← size 'f' "fields to skip"
  let octets ← size 's' "bytes to skip"
  let most ← size 'w' "bytes to compare"
  let old := options.found.filterMap fun entry ↦
    if entry.1.isDigit then some entry.1 else none
  let fields := if old.isEmpty then fields.getD 0 else Text.digitsValue 10 old
  let marks ←
    match (options.values 'D').getLast? with
    | none | some [] => pure GroupMarks.none
    | some text =>
      match choice "--all-repeated" repeatMarks text with
      | .ok marks => pure marks
      | .error message => throw (message, true)
  let group? ←
    match options.value? '\x01' with
    | none => pure none
    | some [] => pure (some GroupMarks.separate)
    | some text =>
      match choice "--group" groupMarks text with
      | .ok marks => pure (some marks)
      | .error message => throw (message, true)
  let shows := fun (letters : List Char) ↦ letters.any options.has
  if group?.isSome && shows ['c', 'd', 'D', 'u'] then
    throw ("--group is mutually exclusive with -c/-d/-D/-u", true)
  if shows ['c'] && shows ['D'] then
    throw ("printing all duplicated lines and repeat counts is meaningless", true)
  let likeness : Likeness := ⟨fields, octets.getD 0, most, options.has 'i'⟩
  let view : GroupView :=
    ⟨options.has 'c', !shows ['d', 'D'], !shows ['u'], shows ['D'], group?.getD marks⟩
  return (likeness, view)

/-- Shows lines that are alike and follow one another once. -/
def uniq : Utility :=
  ofOptions "uniq" uniqForm 1 fun task options ↦
    let (skips, operands) := options.operands.partition fun word ↦
      word.head? == some '+' && (Number.plain? (word.drop 1)).isSome
    let skip? := skips.getLast?.bind fun word ↦ Number.plain? (word.drop 1)
    match uniqPlan options, operands with
    | .error (text, true), _ => task.misuse 1 text
    | .error (text, false), _ => task.complain 1 text.toList
    | .ok _, _ :: _ :: extra :: _ =>
      task.misuse 1 ("extra operand " ++ String.ofList (Quoting.plain extra))
    | .ok (likeness, view), operands =>
      let likeness := { likeness with octets := skip?.getD likeness.octets }
      let source := operands.headD ['-']
      match task.contents source with
      | .error .isDirectory =>
        task.complain 1 ("error reading ".toList ++ Quoting.plain source)
      | .error error => task.finishAll 1 [(2, task.refusal source error)] false
      | .ok text =>
        let ending := if options.has 'z' then '\x00' else '\n'
        let (lines, last) := partsOf (· == ending) text
        let groups := likeness.groups (if last.isEmpty then lines else lines ++ [last])
        let lines :=
          if options.has '\x01' then GroupView.marked view.marks groups else view.apart groups
        let output := lines.flatMap (· ++ [ending])
        match operands with
        | [_, target] =>
          if target = ['-'] then task.finishAll 0 [(1, output)] (Task.isInput source)
          else
            match task.store task.tree target output with
            | .ok tree => { task.finishAll 0 [] true with tree := some tree }
            | .error error => task.finishAll 1 [(2, task.refusal target error)] false
        | _ => task.finishAll 0 [(1, output)] (Task.isInput source)

/-- The utilities for lines that repeat. -/
def ofGrouping : List Utility :=
  [uniq]

end Utility

end Scaffold.Shell
