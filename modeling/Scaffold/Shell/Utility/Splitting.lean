import Scaffold.Shell.Launcher
import Scaffold.Shell.Utility.Amount

/-!
# Splitting files

`split` writes a text piece by piece to files of its own. The pieces (`SplitUnit.pieces`) are told
by their lines, by their octets or by their number; the files are named by letters or digits that
count up (`PieceNames.take`), with more of them where they run out.
-/

set_option autoImplicit false

namespace Scaffold.Shell

open Text (Octets)

/-! ### Pieces -/

/-- How a number of pieces share a text. -/
inductive ChunkKind
  | octets
  /-- Lines stay whole. -/
  | lines
  /-- Lines are dealt out in turn. -/
  | turns
  deriving DecidableEq

/-- What a piece is; of a number of pieces only one may be asked for. -/
inductive SplitUnit
  | lines (count : Nat)
  | octets (count : Nat)
  /-- As many lines as so many octets hold. -/
  | lineOctets (count : Nat)
  | chunks (kind : ChunkKind) (only : Option Nat) (count : Nat)

namespace SplitUnit

/-- The lines of a text, each with the octet that ends it. -/
def linesOf (mark : Char) (text : Octets) : List Octets :=
  let (whole, last) := partsOf (· == mark) text
  whole.map (· ++ [mark]) ++ if last.isEmpty then [] else [last]

/-- Where the filling of pieces with lines stands: the pieces in reverse, the octets in the last
one, whether a line ends in it, and the octets that wait for their line to end. -/
structure Filling where
  pieces : List Octets
  used : Nat
  hasEnd : Bool
  held : Octets

namespace Filling

/-- Puts octets into the last piece, or into a new one if nothing is in it yet. -/
def put (filling : Filling) (octets : Octets) : Filling :=
  let pieces :=
    match filling.pieces with
    | piece :: pieces =>
      if filling.used = 0 then octets :: piece :: pieces else (piece ++ octets) :: pieces
    | [] => [octets]
  { filling with
    pieces
    used := filling.used + octets.length }

/-- Puts the octets that wait, where they may stand. -/
def release (filling : Filling) (hasLine : Bool) : Filling :=
  if filling.held.isEmpty || (!hasLine && filling.used != 0) then filling
  else { filling.put filling.held with held := [] }

/-- Fills pieces of so many octets; `left` bounds the steps. -/
def fill (mark : Char) (count : Nat) : (left : Nat) → Filling → Octets → Filling
  | 0, filling, _ => filling
  | _ + 1, filling, [] => filling
  | left + 1, filling, text =>
    let room := count - filling.used - filling.held.length
    let isFull := room ≤ text.length
    let seen := text.take room
    let whole := (seen.reverse.dropWhile (· != mark)).reverse
    let hasLine := !whole.isEmpty
    let filling := filling.release hasLine
    let filling := if hasLine then { filling.put whole with hasEnd := true } else filling
    let after := seen.drop whole.length
    let filling :=
      if after.isEmpty then filling
      else if filling.hasEnd then { filling with held := filling.held ++ after }
      else filling.put after
    let filling := if isFull then { filling with used := 0, hasEnd := false } else filling
    fill mark count left filling (text.drop room)

end Filling

/-- The pieces that hold as many lines as so many octets do. -/
def lineOctetPieces (mark : Char) (count : Nat) (text : Octets) : List Octets :=
  let filled := Filling.fill mark count (3 * text.length + 2) ⟨[], 0, false, []⟩ text
  let filled := if filled.held.isEmpty then filled else filled.put filled.held
  filled.pieces.reverse

/-- The ends of so many chunks of a text of a length; what is left over belongs to the last one. -/
def chunkEnds (count length : Nat) : List Nat :=
  let length := max length count
  (List.range count).map fun index ↦
    if index + 1 = count then length else length / count * (index + 1)

/-- The chunks of a text that end at these places. -/
def chunksTo : (start : Nat) → List Nat → Octets → List Octets
  | _, [], _ => []
  | start, end_ :: ends, text =>
    text.take (end_ - start) :: chunksTo end_ ends (text.drop (end_ - start))

/-- The places where lines start, with the lines. -/
def placed (lines : List Octets) : List (Nat × Octets) :=
  (lines.foldl (fun (found : Nat × List (Nat × Octets)) line ↦
    (found.1 + line.length, (found.1, line) :: found.2)) (0, [])).2.reverse

/-- The chunks of whole lines: a line belongs to the chunk that it starts in. -/
def lineChunks (ends : List Nat) : (start : Nat) → List (Nat × Octets) → List Octets :=
  match ends with
  | [] => fun _ _ ↦ []
  | end_ :: ends => fun _ lines ↦
    let inside := lines.takeWhile fun line ↦ line.1 < end_
    (inside.map (·.2)).flatten :: lineChunks ends end_ (lines.drop inside.length)

/-- The pieces of a text whose lines a mark ends. -/
def pieces (mark : Char) (text : Octets) : SplitUnit → List Octets
  | lines count => (chunksOf count (linesOf mark text)).map List.flatten
  | octets count => chunksOf count text
  | lineOctets count => lineOctetPieces mark count text
  | chunks .octets _ count => chunksTo 0 (chunkEnds count text.length) text
  | chunks .lines _ count =>
    lineChunks (chunkEnds count text.length) 0 (placed (linesOf mark text))
  | chunks .turns _ count =>
    let lines := (linesOf mark text).zipIdx
    (List.range count).map fun turn ↦
      (lines.filterMap fun (line, index) ↦ if index % count = turn then some line else none).flatten
where
  /-- Lists of so many elements each. -/
  chunksOf {α : Type} (count : Nat) (elements : List α) : List (List α) :=
    let rec go : (left : Nat) → List α → List (List α)
      | 0, _ => []
      | _ + 1, [] => []
      | left + 1, elements => elements.take count :: go left (elements.drop count)
    go elements.length elements

/-- The pieces depend on how long the whole text is. -/
def needsLength : SplitUnit → Bool
  | chunks .turns .. => false
  | chunks .. => true
  | _ => false

/-- Empty pieces count too. -/
def isFixed : SplitUnit → Bool
  | chunks .. => true
  | _ => false

end SplitUnit

/-! ### Names -/

/-- How pieces are named: what stands in front of the digits and behind them, the digits in their
order, how many there are, those to start with, and whether there may be more of them. -/
structure PieceNames where
  lead : Octets
  trail : Octets
  digits : Octets
  start : List Nat
  grows : Bool

namespace PieceNames

/-- The digits one further on, of the last one first; none if there are no more. -/
def next (base : Nat) : List Nat → Option (List Nat)
  | [] => none
  | digit :: digits =>
    if digit + 1 < base then some ((digit + 1) :: digits)
    else (next base digits).map (0 :: ·)

/-- The names of so many pieces, or as many as there are. -/
def take (names : PieceNames) : (count : Nat) → (lead : Octets) → (digits : List Nat) → List Octets
  | 0, _, _ => []
  | count + 1, lead, digits =>
    let shown := digits.map fun digit ↦ names.digits.getD digit '0'
    let name := lead ++ shown ++ names.trail
    match next names.digits.length digits.reverse with
    | none => [name]
    | some following =>
      let following := following.reverse
      let last := names.digits.length - 1
      if names.grows && following.head? == some last then
        name :: names.take count (lead ++ [names.digits.getD last '0'])
          (List.replicate (following.length + 1) 0)
      else name :: names.take count lead following

end PieceNames

/-! ### Options -/

/-- What is wrong with the options; where to read more is told too if it is `hinted`. -/
inductive SplitFault
  | hinted (text : Octets)
  | plain (text : Octets)

/-- What the options ask for. -/
structure SplitRule where
  unit : Option SplitUnit
  /-- How many digits names have; standard if it is zero. -/
  length : Nat
  digits : Octets
  start : Option Octets
  trail : Octets
  elides : Bool
  tells : Bool
  mark : Option Char
  filter : Option Octets

namespace SplitRule

/-- What is asked for where no option says otherwise. -/
def standard : SplitRule where
  unit := none
  length := 0
  digits := "abcdefghijklmnopqrstuvwxyz".toList
  start := none
  trail := []
  elides := false
  tells := false
  mark := none
  filter := none

/-- The form of the options; a letter between them is a digit of the number of lines. -/
def form : OptionForm where
  flags := ['d', 'e', 'u', 'x', '\x01'] ++ "0123456789".toList
  valued := ['a', 'b', 'C', 'l', 'n', 't', '\x02', '\x03', '\x04', '\x05']
  long := [("bytes", 'b'), ("lines", 'l'), ("line-bytes", 'C'), ("number", 'n'),
    ("elide-empty-files", 'e'), ("unbuffered", 'u'), ("suffix-length", 'a'),
    ("additional-suffix", '\x02'), ("numeric-suffixes", '\x03'), ("hex-suffixes", '\x04'),
    ("filter", '\x05'), ("verbose", '\x01'), ("separator", 't')]
  stopsEarly := false

/-- Arguments where each long option that may go without a value has an empty one. -/
def filled (arguments : List Octets) : List Octets :=
  arguments.map fun word ↦
    let isOption := fun (name : String) ↦
      ("--" ++ (name.take 3).toString).toList.isPrefixOf word &&
        word.isPrefixOf ("--" ++ name).toList
    if isOption "numeric-suffixes" || isOption "hex-suffixes" then word ++ ['='] else word

/-- Reads an amount that is not zero. -/
def amount (form : AmountForm) (what : String) (text : Octets) : Except SplitFault Nat :=
  match form.read text with
  | .ok value =>
    if value = 0 then .error (.plain ((what ++ ": ").toList ++ Quoting.plain text))
    else .ok value.toNat
  | .error fault =>
    .error (.plain ((what ++ ": ").toList ++ Quoting.plain text ++ fault.addition.toList))

/-- Counts without a unit. -/
def counts : AmountForm :=
  { AmountForm.counts with units := [] }

/-- Reads a number of chunks. -/
def chunks (text : Octets) : Except SplitFault SplitUnit := do
  let (kind, body) : ChunkKind × Octets :=
    match text with
    | 'l' :: '/' :: rest => (.lines, rest)
    | 'r' :: '/' :: rest => (.turns, rest)
    | rest => (.octets, rest)
  let what := "invalid number of chunks"
  let first := body.takeWhile (· != '/')
  if first.length = body.length || !(first.all Char.isDigit && !first.isEmpty) then
    return .chunks kind none (← amount counts what body)
  else
    let count ← amount counts what (body.drop (first.length + 1))
    let only := Text.digitsValue 10 first
    if only = 0 || count < only then
      throw (.plain ("invalid chunk number: ".toList ++ Quoting.plain first))
    else return .chunks kind (some only) count

/-- The rule with a unit; there may be only one. -/
def withUnit (rule : SplitRule) (unit : SplitUnit) : Except SplitFault SplitRule :=
  if rule.unit.isSome then .error (.hinted "cannot split in more than one way".toList)
  else .ok { rule with unit := some unit }

/-- The rule with digits to count with. -/
def withDigits (rule : SplitRule) (digits : String) (start : Octets) :
    Except SplitFault SplitRule :=
  let digits := digits.toList
  if !start.all digits.contains then
    .error (.hinted (Quoting.plain start ++
      ": invalid start value for ".toList ++
        (if digits.length = 10 then "numerical" else "hexadecimal").toList ++ " suffix".toList))
  else
    let start? :=
      if start.isEmpty then none
      else
        let digits := start.dropWhile (· == '0')
        some (if digits.isEmpty then ['0'] else digits)
    .ok { rule with digits, start := start? }

/-- Takes an option. -/
def take (rule : SplitRule) (option : Char × Octets) : Except SplitFault SplitRule := do
  let (letter, text) := option
  match letter with
  | 'l' => rule.withUnit (.lines (← amount counts "invalid number of lines" text))
  | 'b' => rule.withUnit (.octets (← amount AmountForm.counts "invalid number of bytes" text))
  | 'C' => rule.withUnit (.lineOctets (← amount AmountForm.counts "invalid number of bytes" text))
  | 'n' => rule.withUnit (← chunks text)
  | 'a' =>
    match counts.read text with
    | .ok length => return { rule with length := length.toNat }
    | .error fault =>
      let isNegative := text.head? = some '-' && (text.drop 1).all Char.isDigit
      throw (.plain ("invalid suffix length: ".toList ++ Quoting.plain text ++
        (if isNegative then AmountFault.outside.addition else fault.addition).toList))
  | 'd' => rule.withDigits "0123456789" []
  | 'x' => rule.withDigits "0123456789abcdef" []
  | '\x03' => rule.withDigits "0123456789" text
  | '\x04' => rule.withDigits "0123456789abcdef" text
  | 'e' => return { rule with elides := true }
  | '\x01' => return { rule with tells := true }
  | '\x02' =>
    if text.contains '/' then
      throw (.hinted ("invalid suffix ".toList ++ Quoting.plain text ++
        ", contains directory separator".toList))
    else return { rule with trail := text }
  | '\x05' => return { rule with filter := some text }
  | 't' =>
    let mark ←
      match text with
      | [] => throw (.plain "empty record separator".toList)
      | [c] => pure c
      | ['\\', '0'] => pure '\x00'
      | _ => throw (.plain ("multi-character separator ".toList ++ Quoting.plain text))
    if rule.mark.any (· != mark) then
      throw (.plain "multiple separator characters specified".toList)
    else return { rule with mark := some mark }
  | _ => return rule

/-- The rule that options give; digits that follow each other are one number of lines. -/
def read (options : Options) : Except SplitFault SplitRule := do
  let digits := (options.found.filter (·.1.isDigit)).map (·.1)
  let rule ← options.found.foldlM take standard
  if digits.isEmpty then return rule
  else rule.withUnit (.lines (← amount counts "invalid number of lines" digits))

/-- The digits that a count needs. -/
def needed (base : Nat) : (left : Nat) → Nat → Nat
  | 0, _ => 1
  | left + 1, last => if last < base then 1 else 1 + needed base left (last / base)

/-- The names of the pieces. -/
def names (rule : SplitRule) (lead : Octets) : Except SplitFault PieceNames :=
  let base := rule.digits.length
  let first := (rule.start.map (Text.digitsValue base)).getD 0
  let least :=
    match rule.unit with
    | some (.chunks _ _ count) =>
      needed base 64 (count - 1 + if first < count then first else 0)
    | _ => 0
  let length := if rule.length = 0 then max 2 least else rule.length
  let given := (rule.start.getD []).map Text.digitValue
  if length < least then
    .error (.plain ("the suffix length needs to be at least ".toList ++ Number.digits 10 least))
  else if length < given.length then
    .error (.hinted "numerical suffix start value is too large for the suffix length".toList)
  else
    .ok
      { lead
        trail := rule.trail
        digits := rule.digits
        start := List.replicate (length - given.length) 0 ++ given
        grows := rule.length = 0 && least = 0 && rule.start.isNone }

end SplitRule

/-! ### Files -/

namespace Errand

/-- Stores pieces in files one after the other. -/
def storePieces (task : Task) (tells : Bool) (input : Option Location) :
    FileTree → List (Octets × Octets) → FileTree × List (Nat × Octets) × Bool
  | tree, [] => (tree, [], true)
  | tree, (name, piece) :: rest =>
    let told := "creating file ".toList ++ Quoting.plain name ++ ['\n']
    let shown := if tells then [(1, told)] else []
    let place? := (tree.locate task.here (pathOf name) true).toOption
    if place?.isSome && place? = input then
      (tree, [(2, task.message (Quoting.plain name ++ " would overwrite input; aborting".toList))],
        false)
    else
      match task.store tree name piece with
      | .error error => (tree, shown ++ [(2, task.refusal name error)], false)
      | .ok tree =>
        let (tree, written, isDone) := storePieces task tells input tree rest
        (tree, shown ++ written, isDone)

/-- Has a command run for each piece, which it reads. -/
def filterPieces (task : Task) (command : Octets) : List (Octets × Octets) → Errand
  | [] => done 0
  | (name, piece) :: rest =>
    let order := task.shellOrder command
    let settings := ("FILE".toList, name) :: order.settings.filter (·.1 != "FILE".toList)
    run { order with settings, input := some piece } fun outcome _ ↦
      let status := outcome.status.getD 124
      if status = 0 then filterPieces task command rest
      else
        write 2 (task.message ("with FILE=".toList ++ name ++ ", exit ".toList ++
          Number.digits 10 status ++ " from command: ".toList ++ command)) (done status)

/-- Splits a text as a rule asks for. -/
def splitBy (rule : SplitRule) (names : PieceNames) (task : Task) (source : Octets)
    (text : Octets) : Errand :=
  let unit := rule.unit.getD (.lines 1000)
  let pieces := unit.pieces (rule.mark.getD '\n') text
  let input := if Task.isInput source then [] else task.input
  match unit with
  | .chunks _ (some only) _ =>
    ofEffect { task.finish 0 (pieces.getD (only - 1) []) with input }
  | unit =>
    let pieces :=
      if rule.elides || !unit.isFixed then pieces.filter (! ·.isEmpty) else pieces
    let found := (names.take pieces.length names.lead names.start).zip pieces
    let drained := fun (next : Errand) ↦ if Task.isInput source then drain next else next
    drained <|
    match rule.filter with
    | some command => filterPieces task command found
    | none =>
      let place? := (task.tree.locate task.here (pathOf source) true).toOption
      let (tree, written, isDone) := storePieces task rule.tells
        (if Task.isInput source then none else place?) task.tree found
      let exhausted :=
        if isDone && found.length < pieces.length then
          [(2, task.message "output file suffixes exhausted".toList)]
        else []
      store tree (writeAll (written ++ exhausted)
        (done (if isDone && exhausted.isEmpty then 0 else 1)))

/-- What `split` does. -/
def ofSplit (task : Task) : Errand :=
  match Options.parse SplitRule.form (SplitRule.filled task.arguments) with
  | .error text => misused task 1 text
  | .ok options =>
    let source := options.operands.headD ['-']
    let read := do
      let rule ← SplitRule.read options
      if let extra :: _ := options.operands.drop 2 then
        throw (SplitFault.hinted ("extra operand ".toList ++ Quoting.plain extra))
      let isExtracted :=
        match rule.unit with
        | some (.chunks _ (some _) _) => true
        | _ => false
      if rule.filter.isSome && isExtracted then
        throw (SplitFault.hinted "--filter does not process a chunk extracted to stdout".toList)
      return (rule, ← rule.names (options.operands.getD 1 ['x']))
    match read with
    | .error (.hinted text) => misused task 1 (Octets.toText text)
    | .error (.plain text) => ofEffect (task.complain 1 text)
    | .ok (rule, names) =>
      match task.contents source with
      | .error .isDirectory =>
        ofEffect { task.finish 1 [] with written := [(2, task.refusal source .isDirectory)] }
      | .error error =>
        ofEffect (task.complain 1 ("cannot open ".toList ++ Quoting.plain source ++
          (" for reading: " ++ error.reason).toList))
      | .ok text =>
        if Task.isInput source && !task.readsFile && rule.unit.any SplitUnit.needsLength then
          ofEffect (task.complain 1
            (Quoting.shellIfNeeded source ++ ": cannot determine file size".toList))
        else splitBy rule names task source text

end Errand

end Scaffold.Shell
