import Scaffold.Shell.Utility.Amount

/-!
# Several files side by side

`paste` puts the lines of files next to each other, `comm` tells which lines of two sorted files are
in one of them or in both (`Common`), and `join` joins the lines of two sorted files that have a
field in common (`Join`).
-/

set_option autoImplicit false

namespace Scaffold.Shell

open Text (Octets)

/-- The lines of a text, without the octet that ends them. -/
def linesEndedBy (ending : Char) (text : Octets) : List Octets :=
  let (lines, last) := partsOf (· == ending) text
  if last.isEmpty then lines else lines ++ [last]

/-! ### Lines in common -/

/-- How two sorted files are compared. -/
structure Common where
  isHidden : Nat → Bool
  gap : Octets
  ending : Char
  /-- Whether the order of lines is checked always, or never; none if it is where files differ. -/
  checks : Option Bool

namespace Common

/-- A comparison as it goes on: what is written, the last first; how many lines were in the first
file, the second one and both; which files are known not to be sorted; and whether files differ. -/
structure State where
  written : List (Nat × Octets)
  counts : Nat × Nat × Nat
  disorder : Bool × Bool
  differs : Bool

/-- Shows a line of a column. -/
def show_ (common : Common) (state : State) (column : Nat) (line : Octets) : State :=
  let gaps := (List.range column).flatMap fun before ↦
    if common.isHidden before then [] else common.gap
  let (first, second, both) := state.counts
  let counts :=
    if column = 0 then (first + 1, second, both)
    else if column = 1 then (first, second + 1, both) else (first, second, both + 1)
  let written :=
    if common.isHidden column then state.written
    else (1, gaps ++ line ++ [common.ending]) :: state.written
  { state with written, counts }

/-- Checks the order of two lines of a file; the comparison stops at a wrong one if order is checked
always. -/
def check (common : Common) (state : State) (isFirst : Bool) (before line : Octets) :
    Except State State :=
  let isKnown := if isFirst then state.disorder.1 else state.disorder.2
  if (common.checks = some true || (common.checks.isNone && state.differs)) && !isKnown &&
      Octets.order before line == .gt then
    let text := "comm: file ".toList ++ (if isFirst then ['1'] else ['2']) ++
      " is not in sorted order\n".toList
    let disorder := if isFirst then (true, state.disorder.2) else (state.disorder.1, true)
    let state := { state with written := (2, text) :: state.written, disorder }
    if common.checks = some true then .error state else .ok state
  else .ok state

/-- Goes on to the next line of a file: the line before the current one, the current one and those
that follow. At the end the last two are checked again. -/
def advance (common : Common) (state : State) (isFirst : Bool) (before : Option Octets)
    (current : Octets) (rest : List Octets) : Except State State :=
  match rest with
  | next :: _ => common.check state isFirst current next
  | [] =>
    match before with
    | some before => common.check state isFirst before current
    | none => .ok state

/-- Compares the lines of two files, each with the line before. -/
def compare (common : Common) : (left : Nat) → State → (before₁ : Option Octets) → List Octets →
    (before₂ : Option Octets) → List Octets → Except State State
  | 0, state, _, _, _, _ => .ok state
  | _ + 1, state, _, [], _, [] => .ok state
  | left + 1, state, before₁, first :: firsts, before₂, [] => do
    let state := common.show_ { state with differs := true } 0 first
    let state ← common.advance state true before₁ first firsts
    compare common left state (some first) firsts before₂ []
  | left + 1, state, before₁, [], before₂, second :: seconds => do
    let state := common.show_ { state with differs := true } 1 second
    let state ← common.advance state false before₂ second seconds
    compare common left state before₁ [] (some second) seconds
  | left + 1, state, before₁, first :: firsts, before₂, second :: seconds =>
    match Octets.order first second with
    | .lt => do
      let state := common.show_ { state with differs := true } 0 first
      let state ← common.advance state true before₁ first firsts
      compare common left state (some first) firsts before₂ (second :: seconds)
    | .gt => do
      let state := common.show_ { state with differs := true } 1 second
      let state ← common.advance state false before₂ second seconds
      compare common left state before₁ (first :: firsts) (some second) seconds
    | .eq => do
      let state := common.show_ state 2 second
      let state ← common.advance state true before₁ first firsts
      let state ← common.advance state false before₂ second seconds
      compare common left state (some first) firsts (some second) seconds

end Common

/-! ### Fields in common -/

/-- A part of what is shown of a pair of lines: the field in common, or a field of one of them. -/
inductive JoinField
  | common
  | of (isFirst : Bool) (index : Nat)
  deriving Repr

/-- How two sorted files are joined. -/
structure Join where
  /-- The octet between fields; none for blanks. -/
  mark : Option Char
  /-- The places of the field in common. -/
  keys : Nat × Nat
  ignoresCase : Bool
  /-- Lines of the files without a partner are shown. -/
  showsLone : Bool × Bool
  showsPairs : Bool
  filler : Octets
  form : Option (List JoinField)
  /-- As many fields are shown as the first lines have. -/
  isAutomatic : Bool
  hasHeader : Bool
  ending : Char
  /-- Whether the order of lines is checked always, or never; none if it is where files differ. -/
  checks : Option Bool
  names : Octets × Octets

namespace Join

/-- A line in fields. -/
abbrev Fields := List Octets

/-- The fields of a line. -/
def fieldsOf (join : Join) (line : Octets) : Fields :=
  match join.mark with
  | some mark => if mark = join.ending then [line] else Text.pieces (· == mark) line
  | none =>
    let isBlank := fun (c : Char) ↦ c == ' ' || c == '\t' || c == '\n'
    let line := line.dropWhile isBlank
    if line.isEmpty then []
    else
      let words := (Text.pieces isBlank line).filter fun word ↦ !word.isEmpty
      if line.getLast?.any isBlank then words ++ [[]] else words

/-- The field in common of a line. -/
def key (isFirst : Bool) (join : Join) (fields : Fields) : Octets :=
  let text := fields.getD (if isFirst then join.keys.1 else join.keys.2) []
  if join.ignoresCase then text.map Char.toUpper else text

/-- A field as it is shown. -/
def shown (join : Join) (fields : Fields) (index : Nat) : Octets :=
  let text := fields.getD index []
  if text.isEmpty then join.filler else text

/-- The line that two lines make, one of which may be missing; `counts` are the numbers of fields of
the first lines. -/
def line (join : Join) (counts : Nat × Nat) (first second : Option Fields) : Octets :=
  let one := first.getD []
  let two := second.getD []
  let common :=
    if first.isSome then join.shown one join.keys.1 else join.shown two join.keys.2
  let others := fun (fields : Fields) (key count : Nat) ↦
    let count := if join.isAutomatic then count else fields.length
    ((List.range count).filter (· != key)).map (join.shown fields)
  let parts :=
    match join.form with
    | some form => form.map fun
      | JoinField.common => common
      | .of isFirst index => join.shown (if isFirst then one else two) index
    | none => common :: others one join.keys.1 counts.1 ++ others two join.keys.2 counts.2
  (parts.intersperse [join.mark.getD ' ']).flatten ++ [join.ending]

/-- A file as it is read: the line before with its text, and the lines that follow with their
numbers and texts. -/
structure Source where
  before : Option Fields
  lines : List (Nat × Octets × Fields)

/-- A join as it goes on: what is written, the last first; which files are known not to be sorted;
and whether lines without a partner were seen. -/
structure State where
  written : List (Nat × Octets)
  disorder : Bool × Bool
  differs : Bool

/-- Checks the order of the line that comes next. -/
def check (join : Join) (isFirst : Bool) (source : Source) (state : State) : Except State State :=
  let isKnown := if isFirst then state.disorder.1 else state.disorder.2
  match source.before, source.lines with
  | some before, (number, text, fields) :: _ =>
    if (join.checks = some true || (join.checks.isNone && state.differs)) && !isKnown &&
        Octets.order (join.key isFirst before) (join.key isFirst fields) == .gt then
      let name := if isFirst then join.names.1 else join.names.2
      let message := "join: ".toList ++ name ++ ':' :: Number.digits 10 number ++
        ": is not sorted: ".toList ++ text ++ ['\n']
      let disorder := if isFirst then (true, state.disorder.2) else (state.disorder.1, true)
      let state := { state with written := (2, message) :: state.written, disorder }
      if join.checks = some true then .error state else .ok state
    else .ok state
  | _, _ => .ok state

/-- Goes on to the next line. -/
def Source.next (source : Source) : Source :=
  match source.lines with
  | (_, _, fields) :: rest => ⟨some fields, rest⟩
  | [] => source

/-- Takes the lines that have a key, checking the order of what follows each. -/
def run (join : Join) (isFirst : Bool) (key : Octets) : (left : Nat) → Source → State →
    Except State (List Fields × Source × State)
  | 0, source, state => .ok ([], source, state)
  | left + 1, source, state =>
    match source.lines with
    | (_, _, fields) :: _ =>
      if join.key isFirst fields != key then .ok ([], source, state)
      else do
        let source := source.next
        let state ← join.check isFirst source state
        let (others, source, state) ← run join isFirst key left source state
        return (fields :: others, source, state)
    | [] => .ok ([], source, state)

/-- Shows the lines that are left of one file. -/
def rest (join : Join) (isFirst : Bool) (counts : Nat × Nat) : (left : Nat) → Source → State →
    Except State State
  | 0, _, state => .ok state
  | left + 1, source, state =>
    match source.lines with
    | (_, _, fields) :: _ => do
      let shows := if isFirst then join.showsLone.1 else join.showsLone.2
      let line := if isFirst then join.line counts (some fields) none
        else join.line counts none (some fields)
      let state := if shows then { state with written := (1, line) :: state.written } else state
      let source := source.next
      let state ← join.check isFirst source state
      rest join isFirst counts left source state
    | [] => .ok state

/-- Joins the lines of two files. -/
def pairs (join : Join) (counts : Nat × Nat) : (left : Nat) → Source → Source → State →
    Except State State
  | 0, _, _, state => .ok state
  | left + 1, one, two, state =>
    match one.lines, two.lines with
    | (_, _, first) :: _, (_, _, second) :: _ =>
      let write := fun (state : State) (line : Octets) ↦
        { state with written := (1, line) :: state.written }
      match Octets.order (join.key true first) (join.key false second) with
      | .lt => do
        let state :=
          if join.showsLone.1 then write state (join.line counts (some first) none) else state
        let one := one.next
        let state ← join.check true one state
        pairs join counts left one two { state with differs := true }
      | .gt => do
        let state :=
          if join.showsLone.2 then write state (join.line counts none (some second)) else state
        let two := two.next
        let state ← join.check false two state
        pairs join counts left one two { state with differs := true }
      | .eq => do
        let bound := one.lines.length + two.lines.length
        let (firsts, one, state) ← join.run true (join.key true first) bound one state
        let (seconds, two, state) ← join.run false (join.key true first) bound two state
        let lines := firsts.flatMap fun first ↦ seconds.map fun second ↦
          join.line counts (some first) (some second)
        pairs join counts left one two (if join.showsPairs then lines.foldl write state else state)
    | [], [] => .ok state
    | _, [] =>
      join.rest true counts (one.lines.length + 1) one state
    | [], _ => join.rest false counts (two.lines.length + 1) two state

/-- Joins two texts. -/
def texts (join : Join) (first second : Octets) : Except State State :=
  let source := fun (text : Octets) ↦
    (linesEndedBy join.ending text).zipIdx.map fun (line, index) ↦
      (index + 1, line, join.fieldsOf line)
  let one := source first
  let two := source second
  let width := fun (lines : List (Nat × Octets × Fields)) ↦
    (lines.head?.map (·.2.2.length)).getD 0
  let counts := (width one, width two)
  let start : State := ⟨[], (false, false), false⟩
  let bound := one.length + two.length + 2
  if join.hasHeader && !(one.isEmpty && two.isEmpty) then
    let header := join.line counts (one.head?.map (·.2.2)) (two.head?.map (·.2.2))
    join.pairs counts bound ⟨none, one.drop 1⟩ ⟨none, two.drop 1⟩
      { start with written := [(1, header)] }
  else join.pairs counts bound ⟨none, one⟩ ⟨none, two⟩ start

end Join

namespace Utility

/-! ### Lines next to each other -/

/-- The separators that a text lists; none if it ends in a backslash. -/
def separatorsOf (text : Octets) : Option (List Octets) :=
  match text with
  | [] => some []
  | ['\\'] => none
  | '\\' :: c :: rest =>
    let known := [('b', ['\x08']), ('f', ['\x0c']), ('n', ['\n']), ('r', ['\r']), ('t', ['\t']),
      ('v', ['\x0b']), ('0', [])]
    (separatorsOf rest).map ((known.lookup c).getD [c] :: ·)
  | c :: rest => (separatorsOf rest).map ([c] :: ·)

/-- Parts with the separators between them, one after the other. -/
def interleaved (separators : List Octets) : List Octets → Octets
  | [] => []
  | [part] => part
  | part :: rest =>
    match separators with
    | [] => part ++ interleaved [] rest
    | first :: others => part ++ first ++ interleaved (others ++ [first]) rest

/-- Puts lines side by side. -/
def paste : Utility :=
  ofOptions "paste" ⟨['s', 'z'], ['d'],
    [("serial", 's'), ("delimiters", 'd'), ("zero-terminated", 'z')], false⟩ 1 fun task options ↦
    let list := (options.value? 'd').getD ['\t']
    let ending := if options.has 'z' then '\x00' else '\n'
    let ended := fun (lines : List Octets) ↦ lines.flatMap (· ++ [ending])
    match separatorsOf list with
    | none =>
      task.complain 1 ("delimiter list ends with an unescaped backslash: ".toList ++ list)
    | some separators =>
      let sources := Task.operandsOrInput options.operands
      let readsAll := sources.any Task.isInput
      if options.has 's' then
        let written := (task.sources sources).map fun (operand, contents) ↦
          match contents with
          | .ok text => (1, ended [interleaved separators (linesEndedBy ending text)])
          | .error error => (2, task.refusal operand error)
        task.finishAll (if written.any (·.1 == 2) then 1 else 0) written readsAll
      else
        let found := sources.map fun operand ↦ (operand, task.contents operand)
        match found.findSome? fun (operand, contents) ↦
          match contents with
          | .ok _ => none
          | .error error => some (operand, error) with
        | some (operand, error) => task.finishAll 1 [(2, task.refusal operand error)] false
        | none =>
          let inputs := sources.countP Task.isInput
          let columns := (found.foldl (fun (state : List (List Octets) × Nat) (source, contents) ↦
            let lines := linesEndedBy ending (contents.toOption.getD [])
            if Task.isInput source && inputs > 1 then
              let lines := lines.zipIdx.filterMap fun (line, index) ↦
                if index % inputs = state.2 then some line else none
              (lines :: state.1, state.2 + 1)
            else (lines :: state.1, state.2)) ([], 0)).1.reverse
          let height := columns.foldl (fun height column ↦ max height column.length) 0
          let columns := columns.map List.toArray
          let rows := (List.range height).map fun row ↦ columns.map fun column ↦ column.getD row []
          task.finishAll 0 [(1, ended (rows.map (interleaved separators)))] readsAll

/-! ### Two sorted files -/

/-- Goes on with the contents of two operands, or complains about the one that has none. -/
def withBoth (task : Task) (operands : List Octets) (next : Octets → Octets → Effect) : Effect :=
  match task.sources operands with
  | [(first, contents₁), (second, contents₂)] =>
    match contents₁, contents₂ with
    | .ok one, .ok two => next one two
    | .error error, _ => task.finishAll 1 [(2, task.refusal first error)] false
    | _, .error error => task.finishAll 1 [(2, task.refusal second error)] false
  | _ => task.finish 1 []

/-- Complains unless there are two operands. -/
def withTwo (task : Task) (operands : List Octets) (next : Effect) : Effect :=
  match operands with
  | [] => task.misuse 1 "missing operand"
  | [operand] =>
    task.misuse 1 ("missing operand after " ++ String.ofList (Quoting.plain operand))
  | [_, _] => next
  | _ => task.misuse 1 ("extra operand " ++ String.ofList (Quoting.plain (operands.getD 2 [])))

/-- The warning at the end about files that are not sorted. -/
def disorderly (task : Task) (written : List (Nat × Octets)) (disorder isStopped : Bool) : Effect :=
  let last :=
    if disorder && !isStopped then [(2, task.message "input is not in sorted order".toList)] else []
  task.finishAll (if disorder then 1 else 0) (written.reverse ++ last) true

/-- Compares two sorted files line by line. -/
def comm : Utility :=
  ofOptions "comm" ⟨['1', '2', '3', 'z'], ['\x03'],
    [("check-order", '\x01'), ("nocheck-order", '\x02'), ("output-delimiter", '\x03'),
      ("total", '\x04'), ("zero-terminated", 'z')], false⟩ 1 fun task options ↦
    withTwo task options.operands <| withBoth task options.operands fun one two ↦
      let gaps := options.values '\x03'
      if gaps.any fun gap ↦ gaps.head? != some gap then
        task.complain 1 "multiple output delimiters specified".toList
      else
        let gap := (gaps.head?.map fun gap ↦ if gap.isEmpty then ['\x00'] else gap).getD ['\t']
        let ending := if options.has 'z' then '\x00' else '\n'
        let checks :=
          (options.found.reverse.find? fun entry ↦ entry.1 == '\x01' || entry.1 == '\x02').map
            (·.1 == '\x01')
        let common : Common :=
          ⟨fun column ↦ options.has (['1', '2', '3'].getD column '1'), gap, ending, checks⟩
        let start : Common.State := ⟨[], (0, 0, 0), (false, false), false⟩
        let outcome := common.compare (one.length + two.length + 2) start none
          (linesEndedBy ending one) none (linesEndedBy ending two)
        let (state, isStopped) :=
          match outcome with
          | .ok state => (state, false)
          | .error state => (state, true)
        let (first, second, both) := state.counts
        let numbers := [first, second, both].flatMap fun count ↦ Number.digits 10 count ++ gap
        let total := if options.has '\x04' && !isStopped then
            [(1, numbers ++ "total".toList ++ [ending])] else []
        disorderly task (total ++ state.written) (state.disorder.1 || state.disorder.2) isStopped

/-- Reads a place of a field; the first one is written as one. -/
def fieldPlace (text : Octets) : Except (Octets × Bool) Nat :=
  match Number.plain? text with
  | some (index + 1) => .ok index
  | _ => .error ("invalid field number: ".toList ++ Quoting.plain text, false)

/-- Reads the parts of a line that are to be shown. -/
def joinForm (text : Octets) : Except (Octets × Bool) (List JoinField) :=
  let parts := Text.pieces (fun c ↦ c == ',' || c == ' ' || c == '\t') text
  parts.mapM fun part ↦
    match part with
    | ['0'] => .ok .common
    | '1' :: '.' :: place => (fieldPlace place).map (.of true)
    | '2' :: '.' :: place => (fieldPlace place).map (.of false)
    | '0' :: _ | '1' :: _ | '2' :: _ =>
      .error ("invalid field specifier: ".toList ++ Quoting.plain part, false)
    | _ => .error ("invalid file number in field spec: ".toList ++ Quoting.plain part, false)

/-- The octet between fields that an option gives. -/
def joinMark (text : Octets) : Except (Octets × Bool) Char :=
  match text with
  | [] => .ok '\n'
  | [c] => .ok c
  | ['\\', '0'] => .ok '\x00'
  | text => .error ("multi-character tab ".toList ++ Quoting.plain text, false)

/-- How the options ask two files to be joined; a fault is a message, with whether it is told where
to read more. -/
def joinPlan (options : Options) (names : Octets × Octets) : Except (Octets × Bool) Join := do
  let lone := fun (letter : Char) ↦ (options.values letter).mapM fun text ↦
    match text with
    | ['1'] => .ok true
    | ['2'] => .ok false
    | text => .error ("invalid field number: ".toList ++ Quoting.plain text, false)
  let added ← lone 'a'
  let only ← lone 'v'
  let both ← (options.value? 'j').mapM fieldPlace
  let first ← (options.value? '1').mapM fieldPlace
  let second ← (options.value? '2').mapM fieldPlace
  let mark ← (options.value? 't').mapM joinMark
  let isAutomatic := options.value? 'o' == some "auto".toList
  let form ←
    if isAutomatic || !options.has 'o' then pure none
    else (·.flatten) <$> (options.values 'o').mapM joinForm
  let shows := added ++ only
  let checks :=
    (options.found.reverse.find? fun entry ↦ entry.1 == '\x01' || entry.1 == '\x02').map
      (·.1 == '\x01')
  return {
    mark, isAutomatic, form, names, checks
    keys := ((first <|> both).getD 0, (second <|> both).getD 0)
    ignoresCase := options.has 'i'
    showsLone := (shows.contains true, shows.contains false)
    showsPairs := only.isEmpty
    filler := (options.value? 'e').getD []
    hasHeader := options.has '\x03'
    ending := if options.has 'z' then '\x00' else '\n' }

/-- Joins the lines of two sorted files that have a field in common. -/
def join : Utility :=
  ofOptions "join" ⟨['i', 'z'], ['a', 'v', 'e', 'j', '1', '2', 'o', 't'],
    [("ignore-case", 'i'), ("check-order", '\x01'), ("nocheck-order", '\x02'),
      ("zero-terminated", 'z'), ("header", '\x03')], false⟩ 1 fun task options ↦
    withTwo task options.operands <|
      match joinPlan options (options.operands.getD 0 [], options.operands.getD 1 []) with
      | .error (text, true) => task.misuse 1 (String.ofList text)
      | .error (text, false) => task.complain 1 text
      | .ok plan =>
        if options.operands.all (· == ['-']) then
          task.complain 1 "both files cannot be standard input".toList
        else withBoth task options.operands fun one two ↦
          let (state, isStopped) :=
            match plan.texts one two with
            | .ok state => (state, false)
            | .error state => (state, true)
          disorderly task state.written (state.disorder.1 || state.disorder.2) isStopped

/-- The utilities for several files. -/
def ofJoining : List Utility :=
  [paste, comm, join]

end Utility

end Scaffold.Shell
