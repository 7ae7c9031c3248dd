import Scaffold.Shell.Utility.Basic

/-!
# Parts of lines

`cut` picks octets or fields of lines.
-/

set_option autoImplicit false

namespace Scaffold.Shell.Utility

open Text (Octets)

/-- A range of positions, from one number on and up to another one if it has an end. -/
structure Range where
  first : Nat
  last : Option Nat
  deriving Repr

/-- What is wrong with a list of ranges. -/
inductive RangeFault
  | zero
  | decreasing
  | noEnd
  | value (text : Octets)
  | large (text : Octets)
  | range
  deriving DecidableEq, Repr

/-- The message about a list of fields, or of octets. -/
def RangeFault.message (ofFields : Bool) : RangeFault → String
  | zero =>
    (if ofFields then "fields" else "byte/character positions") ++ " are numbered from 1"
  | decreasing => "invalid decreasing range"
  | noEnd => "invalid range with no endpoint: -"
  | value text =>
    (if ofFields then "invalid field value '" else "invalid byte/character position '") ++
      Octets.toText text ++ "'"
  | large text =>
    (if ofFields then "field number '" else "byte/character offset '") ++ Octets.toText text ++
      "' is too large"
  | range => if ofFields then "invalid field range" else "invalid byte or character range"

/-- Reads the number of a range, or one that stands for it if there is none. -/
def rangeNumber (digits : Octets) (standard : Nat) : Except RangeFault Nat :=
  if digits.isEmpty then .ok standard
  else
    match Number.plain? digits with
    | some value => if value < 18446744073709551615 then .ok value else .error (.large digits)
    | none => .error (.value (digits.dropWhile Char.isDigit))

/-- Reads a list of ranges. -/
def ranges (text : Octets) : Except RangeFault (List Range) :=
  (Text.pieces (fun c ↦ c == ',' || c == ' ' || c == '\t') text).mapM fun part ↦
    let first := part.takeWhile (· != '-')
    if part.isEmpty then .error .zero
    else if part = ['-'] then .error .noEnd
    else if first.length = part.length then do
      let value ← rangeNumber first 0
      if value = 0 then .error .zero else .ok ⟨value, some value⟩
    else do
      let low ← rangeNumber first 1
      let rest := part.drop (first.length + 1)
      if rest.contains '-' then throw .range
      if low = 0 then throw .zero
      if rest.isEmpty then return ⟨low, none⟩
      let high ← rangeNumber rest 0
      if high < low then throw .decreasing
      return ⟨low, some high⟩

/-- A position is in one of the ranges. -/
def isWithin (ranges : List Range) (position : Nat) : Bool :=
  ranges.any fun range ↦ range.first ≤ position && range.last.all (position ≤ ·)

/-- The items at positions that are picked. -/
def picked {α : Type} (test : Nat → Bool) (items : List α) : List α :=
  items.zipIdx.filterMap fun (item, index) ↦ if test (index + 1) then some item else none

/-- A range begins at a position, and no other one goes on there. -/
def startsAt (ranges : List Range) (position : Nat) : Bool :=
  ranges.any (·.first == position) &&
    !ranges.any fun range ↦ range.first < position && range.last.all (position ≤ ·)

/-- Octets that are picked, with a text between those of different ranges. -/
def jointed (test starts : Nat → Bool) (joint : Octets) (line : Octets) : Octets :=
  (line.zipIdx.foldl (fun (state : Octets × Option Nat) (c, index) ↦
    if test (index + 1) then
      let gap := match state.2 with
        | some last => if last = index && !starts (index + 1) then [] else joint
        | none => []
      (c :: gap.reverse ++ state.1, some (index + 1))
    else state) ([], none)).1.reverse

/-- The form of the options of `cut`. -/
def cutForm : OptionForm where
  flags := ['s', 'n', 'z']
  valued := ['d', 'f', 'c', 'b', '\x01']
  long := [("bytes", 'b'), ("characters", 'c'), ("fields", 'f'), ("delimiter", 'd'),
    ("only-delimited", 's'), ("output-delimiter", '\x01'), ("complement", '\x02'),
    ("zero-terminated", 'z')]
  stopsEarly := false

/-- The fields that are picked of a text that a mark for ends of lines parts as well. -/
def cutWhole (test : Nat → Bool) (joint : Octets) (ending : Char) (onlyParted : Bool)
    (lines : List Octets) : Octets :=
  if lines.isEmpty || (onlyParted && lines.length = 1 && !test 1) then []
  else ((picked test lines).intersperse joint).flatten ++ [ending]

/-- How `cut` changes a text. -/
def cutChange (options : Options) : Except String (Octets → Octets) :=
  let ending := if options.has 'z' then '\x00' else '\n'
  let linesOf := fun (text : Octets) ↦
    let (lines, last) := partsOf (· == ending) text
    if last.isEmpty then lines else lines ++ [last]
  let test := fun (ranges : List Range) (position : Nat) ↦
    isWithin ranges position != options.has '\x02'
  let joint? := (options.value? '\x01').map fun joint ↦
    if joint.isEmpty then ['\x00'] else joint
  let lists := options.found.filter fun entry ↦ ['f', 'c', 'b'].contains entry.1
  if (options.values 'd').any (·.length > 1) then
    .error "the delimiter must be a single character"
  else
    match lists with
    | [] => .error "you must specify a list of bytes, characters, or fields"
    | _ :: _ :: _ => .error "only one list may be specified"
    | [('f', list)] =>
      match ranges list with
      | .error fault => .error (fault.message true)
      | .ok ranges =>
        let mark := ((options.value? 'd').getD ['\t']).headD '\x00'
        let joint := joint?.getD [mark]
        if mark = ending then
          .ok fun text ↦ cutWhole (test ranges) joint ending (options.has 's') (linesOf text)
        else
          .ok fun text ↦ (linesOf text).flatMap fun line ↦
            if line.contains mark then
              let fields := picked (test ranges) (Text.pieces (· == mark) line)
              (fields.intersperse joint).flatten ++ [ending]
            else if options.has 's' then [] else line ++ [ending]
    | [(_, list)] =>
      if options.has 'd' then
        .error "an input delimiter may be specified only when operating on fields"
      else if options.has 's' then
        .error "suppressing non-delimited lines makes sense\n\tonly when operating on fields"
      else
        match ranges list with
        | .error fault => .error (fault.message false)
        | .ok ranges =>
          let change := match joint? with
            | some joint =>
              let starts := fun (position : Nat) ↦
                !options.has '\x02' && startsAt ranges position
              jointed (test ranges) starts joint
            | none => picked (test ranges)
          .ok fun text ↦ (linesOf text).flatMap fun line ↦ change line ++ [ending]

/-- Picks parts of lines. -/
def cut : Utility :=
  ofOptions "cut" cutForm 1 fun task options ↦
    match cutChange options with
    | .error text => task.misuse 1 text
    | .ok change => task.filtered options.operands change

/-- The utilities that pick parts of lines. -/
def ofCutting : List Utility :=
  [cut]

end Scaffold.Shell.Utility
