import Scaffold.Shell.Decimal
import Scaffold.Shell.Utility.Amount
import Scaffold.Text.Digits
import Scaffold.Text.Octets

/-!
# Copying blocks

`dd` copies octets block by block, and tells how many blocks it read and wrote, and how many of them
were short. What its operands ask for is a `BlockRule`: where octets come from and go to, how many
there are in a block, which of them are copied, and how they are changed. `BlockRule.read` takes the
operands one after the other; a later one of the same name wins, and changes and marks add up.

What is copied may be changed on its way (`BlockRule.change`), also to other character sets: EBCDIC
gives every octet of the plain set another place, and two octets never share one, so `toPlain` takes
back what `toBlocks` did. The set of printers (`toPrinters`) differs from it in five places.
-/

set_option autoImplicit false

namespace Scaffold.Shell.Utility.Charset

open Text (Octets)

/-- The EBCDIC octets of the plain ones in their order, each in two hexadecimal digits. -/
def places : String :=
  "00010203372d2e2f1605250b0c0d0e0f101112133c3d322618193f271c1d1e1f" ++
  "405a7f7b5b6c507d4d5d5c4e6b604b61f0f1f2f3f4f5f6f7f8f97a5e4c7e6e6f" ++
  "7cc1c2c3c4c5c6c7c8c9d1d2d3d4d5d6d7d8d9e2e3e4e5e6e7e8e9ade0bd9a6d" ++
  "79818283848586878889919293949596979899a2a3a4a5a6a7a8a9c04fd05f07" ++
  "202122232415061728292a2b2c090a1b30311a333435360838393a3b04143ee1" ++
  "4142434445464748495152535455565758596263646566676869707172737475" ++
  "767778808a8b8c8d8e8f906a9b9c9d9e9fa0aaabac4aaeafb0b1b2b3b4b5b6b7" ++
  "b8b9babbbca1bebfcacbcccdcecfdadbdcdddedfeaebecedeeeffafbfcfdfeff"

/-- The octets that pairs of hexadecimal digits stand for. -/
def pairs : List Char → Octets
  | high :: low :: rest => Char.ofNat (Text.digitsValue 16 [high, low]) :: pairs rest
  | _ => []

/-- The EBCDIC octets of the plain ones in their order. -/
def table : Octets :=
  pairs places.toList

/-- The octets in EBCDIC. -/
def toBlocks (text : Octets) : Octets :=
  let table := table.toArray
  text.map fun c ↦ table.getD c.toNat c

/-- The octets that EBCDIC octets stand for. -/
def toPlain (text : Octets) : Octets :=
  let table := table
  text.map fun c ↦ Char.ofNat (table.idxOf c)

/-- The octets in the EBCDIC of printers. -/
def toPrinters (text : Octets) : Octets :=
  let table := table.toArray
  text.map fun c ↦
    match ([(94, 95), (126, 161), (203, 154), (213, 173), (229, 189)] :
      List (Nat × Nat)).lookup c.toNat with
    | some place => Char.ofNat place
    | none => table.getD c.toNat c

end Scaffold.Shell.Utility.Charset

namespace Scaffold.Shell.Utility

open Text (Octets)

/-! ### Rules -/

/-- A change of what is copied, or of the file that it goes to. -/
inductive BlockChange
  | fromEbcdic
  | toEbcdic
  | toPrinters
  /-- Lines become records of one size. -/
  | block
  /-- Records become lines. -/
  | unblock
  | lower
  | upper
  /-- Neighbours change places. -/
  | swap
  /-- Short blocks are filled up. -/
  | fill
  /-- The file must not be there. -/
  | isNew
  /-- The file must be there. -/
  | isOld
  /-- What the file holds behind the copy stays. -/
  | keep
  /-- Nothing that shows. -/
  | none
  deriving DecidableEq

/-- A mark of how a file is read or written. -/
inductive BlockMark
  | appends
  | isDirectory
  | isDirect
  | isUncached
  /-- Blocks are read whole. -/
  | isWhole
  /-- The number of blocks is one of octets. -/
  | countsOctets
  | skipsOctets
  | seeksOctets
  /-- Nothing that shows. -/
  | none
  deriving DecidableEq

/-- What is told at the end. -/
inductive BlockReport
  | nothing
  | records
  | transfer
  deriving DecidableEq

/-- A number among the operands; one with a `B` in it counts octets. -/
structure BlockCount where
  value : Nat
  countsOctets : Bool

/-- What the operands ask for. -/
structure BlockRule where
  source : Option Octets
  target : Option Octets
  /-- The octets in a block that is read, in one that is written, in both, and in a record. -/
  readSize : Option Nat
  writeSize : Option Nat
  size : Option Nat
  recordSize : Option Nat
  count : Option BlockCount
  skip : BlockCount
  seek : BlockCount
  changes : List BlockChange
  readMarks : List BlockMark
  writeMarks : List BlockMark
  report : BlockReport
  /-- What is read is gathered to blocks of the size to write. -/
  gathers : Bool
  /-- Numbers that are zero because of the way they are written. -/
  zeros : Nat

/-- What is wrong with an operand; where to read more is told too if it is `hinted`. -/
inductive BlockFault
  | hinted (text : String)
  | plain (text : String)

namespace BlockChange

/-- The changes by their names. -/
def names : List (String × List BlockChange) :=
  [("ascii", [fromEbcdic, unblock]), ("ebcdic", [toEbcdic, block]), ("ibm", [toPrinters, block]),
    ("block", [block]), ("unblock", [unblock]), ("lcase", [lower]), ("ucase", [upper]),
    ("sparse", [none]), ("swab", [swap]), ("noerror", [none]), ("nocreat", [isOld]),
    ("excl", [isNew]), ("notrunc", [keep]), ("sync", [fill]), ("fdatasync", [none]),
    ("fsync", [none])]

/-- The change is one of the octets. -/
def isOfOctets (change : BlockChange) : Bool :=
  [fromEbcdic, toEbcdic, toPrinters, block, unblock, lower, upper, swap].contains change

end BlockChange

/-- The marks by their names. -/
def BlockMark.names : List (String × List BlockMark) :=
  [("append", [appends]), ("direct", [isDirect]), ("directory", [isDirectory]), ("dsync", [none]),
    ("noatime", [none]), ("nocache", [isUncached]), ("noctty", [none]), ("nofollow", [none]),
    ("nonblock", [none]), ("sync", [none]), ("fullblock", [isWhole]),
    ("count_bytes", [countsOctets]), ("skip_bytes", [skipsOctets]), ("seek_bytes", [seeksOctets])]

/-- The reports by their names. -/
def BlockReport.names : List (String × List BlockReport) :=
  [("none", [nothing]), ("noxfer", [records]), ("progress", [transfer])]

namespace BlockRule

/-- What is asked for where no operand says otherwise. -/
def standard : BlockRule where
  source := none
  target := none
  readSize := none
  writeSize := none
  size := none
  recordSize := none
  count := none
  skip := ⟨0, false⟩
  seek := ⟨0, false⟩
  changes := []
  readMarks := []
  writeMarks := []
  report := .transfer
  gathers := false
  zeros := 0

/-! ### Numbers -/

/-- The units of the numbers. -/
def units : AmountForm :=
  { AmountForm.counts with units := "bcEGkKMPQRTwYZ0".toList }

/-- A factor of a number: digits, or none of them before a unit, and a `B` that stands alone. -/
def factor? (text : Octets) : Option Nat := do
  let body := text.dropWhile Char.isWhitespace
  if body.head? = some '-' then none
  let body := (Number.sign body).2
  let digits := body.takeWhile Char.isDigit
  let after := body.drop digits.length
  if digits.isEmpty && !(body.length == text.length && after.head?.any units.units.contains) then
    none
  let value := if digits.isEmpty then 1 else Text.digitsValue 10 digits
  match units.unit? after with
  | some (unit, rest) =>
    let before := (text.take (text.length - rest.length)).getLast?
    if rest.isEmpty || (rest == ['B'] && before != some 'B') then return value * unit.toNat
    else none
  | none => if after == ['B'] && !digits.isEmpty then return value else none

/-- The number that a text gives, of factors with an `x` between them. -/
def number? (text : Octets) : Option Nat := do
  let factors ← (Text.pieces (· == 'x') text).mapM factor?
  return factors.foldl (· * ·) 1

/-- Reads a number that is not below a least one. -/
def number (least : Nat) (text : Octets) : Except BlockFault BlockCount :=
  let shown := "invalid number: " ++ Octets.toText (Quoting.plain text)
  match number? text with
  | none => .error (.plain shown)
  | some value =>
    if value < least then .error (.plain shown)
    else if Number.greatest < value then
      .error (.plain (shown ++ AmountFault.tooLarge.addition))
    else .ok ⟨value, text.contains 'B'⟩

/-! ### Operands -/

/-- The meanings of the words between commas. -/
def meanings {α : Type} (what : String) (names : List (String × List α)) (text : Octets) :
    Except BlockFault (List α) := do
  let found ← (Text.pieces (· == ',') text).mapM fun word ↦
    match names.lookup (Octets.toText word) with
    | some meaning => .ok meaning
    | none => .error (.hinted (what ++ ": " ++ Octets.toText (Quoting.plain word)))
  return found.flatten

/-- Takes an operand of a name. -/
def take (rule : BlockRule) (word : Octets) : Except BlockFault BlockRule := do
  let name := word.takeWhile (· != '=')
  let text := word.drop (name.length + 1)
  let unknown := BlockFault.hinted
    ("unrecognized operand " ++ Octets.toText (Quoting.plain word))
  if !word.contains '=' then throw unknown
  match Octets.toText name with
  | "if" => return { rule with source := some text }
  | "of" => return { rule with target := some text }
  | "conv" =>
    let found ← meanings "invalid conversion" BlockChange.names text
    return { rule with changes := rule.changes ++ found }
  | "iflag" =>
    let found ← meanings "invalid input flag" BlockMark.names text
    return { rule with readMarks := rule.readMarks ++ found }
  | "oflag" =>
    let found ← meanings "invalid output flag" BlockMark.names text
    return { rule with writeMarks := rule.writeMarks ++ found }
  | "status" =>
    let found ← meanings "invalid status level" BlockReport.names text
    return { rule with report := found.getLastD rule.report }
  | name =>
    let rule := { rule with
      zeros := rule.zeros + if "0x".toList.isPrefixOf text && number? text = some 0 then 1 else 0 }
    match name with
    | "ibs" => return { rule with readSize := some (← number 1 text).value }
    | "obs" => return { rule with writeSize := some (← number 1 text).value }
    | "bs" => return { rule with size := some (← number 1 text).value }
    | "cbs" => return { rule with recordSize := some (← number 1 text).value }
    | "skip" | "iseek" => return { rule with skip := ← number 0 text }
    | "seek" | "oseek" => return { rule with seek := ← number 0 text }
    | "count" => return { rule with count := some (← number 0 text) }
    | _ => throw unknown

/-- Two of the changes are asked for. -/
def mixes (rule : BlockRule) (changes : List BlockChange) : Bool :=
  2 ≤ (changes.filter rule.changes.contains).length

/-- What of the rule cannot be asked for together. -/
def conflict? (rule : BlockRule) : Option BlockFault :=
  let uncached : List BlockMark := [.isDirect, .isUncached]
  if rule.writeMarks.contains .isWhole then some (.hinted "invalid output flag: 'fullblock'")
  else if rule.mixes [.fromEbcdic, .toEbcdic, .toPrinters] then
    some (.plain "cannot combine any two of \x7bascii,ebcdic,ibm\x7d")
  else if rule.mixes [.block, .unblock] then some (.plain "cannot combine block and unblock")
  else if rule.mixes [.lower, .upper] then some (.plain "cannot combine lcase and ucase")
  else if rule.mixes [.isNew, .isOld] then some (.plain "cannot combine excl and nocreat")
  else if uncached.all rule.readMarks.contains || uncached.all rule.writeMarks.contains then
    some (.plain "cannot combine direct and nocache")
  else none

/-- The rule without records if nothing says how long they are. -/
def settled (rule : BlockRule) : BlockRule :=
  let rule := { rule with
    gathers := rule.size.isNone || rule.changes.any BlockChange.isOfOctets }
  if rule.recordSize.isSome then rule
  else
    { rule with
      changes := rule.changes.filter fun change ↦ change != .block && change != .unblock }

/-- The rule that operands give. -/
def read (words : List Octets) : Except BlockFault BlockRule := do
  let rule := (← words.foldlM take standard).settled
  match rule.conflict? with
  | some fault => throw fault
  | none => return rule

/-! ### Sizes -/

/-- The octets in a block that is read. -/
def sizeToRead (rule : BlockRule) : Nat :=
  rule.size.getD (rule.readSize.getD 512)

/-- The octets in a block that is written. -/
def sizeToWrite (rule : BlockRule) : Nat :=
  rule.size.getD (rule.writeSize.getD 512)

/-- The octets that a number of blocks comes to. -/
def octets (count : BlockCount) (marks : List BlockMark) (mark : BlockMark) (size : Nat) : Nat :=
  if count.countsOctets || marks.contains mark then count.value else count.value * size

/-- The octets that are skipped. -/
def skipped (rule : BlockRule) : Nat :=
  octets rule.skip rule.readMarks .skipsOctets rule.sizeToRead

/-- The octets that are copied at most. -/
def limit? (rule : BlockRule) : Option Nat :=
  rule.count.map fun count ↦ octets count rule.readMarks .countsOctets rule.sizeToRead

/-- The octets in front of the copy. -/
def sought (rule : BlockRule) : Nat :=
  octets rule.seek rule.writeMarks .seeksOctets rule.sizeToWrite

end BlockRule

/-! ### Sizes for people -/

/-- A size in the greatest unit that it reaches, where each unit has so many of the one before. -/
def unitSize (base size : Nat) : (units : List String) → (scale : Nat) → Octets
  | [], _ => []
  | unit :: units, scale =>
    if Decimal.nearest size scale ≥ base && !units.isEmpty then
      unitSize base size units (scale * base)
    else
      let tenths := Decimal.nearest (size * 10) scale
      let number :=
        if scale = 1 ∨ tenths ≥ 100 then Number.digits 10 (Decimal.nearest size scale)
        else Number.digits 10 (tenths / 10) ++ '.' :: Number.digits 10 (tenths % 10)
      number ++ ' ' :: unit.toList

/-- How many octets were copied, in one or two units as well if there are many. -/
def copiedText (size : Nat) : Octets :=
  let thousands := unitSize 1000 size ["B", "kB", "MB", "GB", "TB"] 1
  let powers := unitSize 1024 size ["B", "KiB", "MiB", "GiB", "TiB"] 1
  let inUnits :=
    if size < 1000 then []
    else if size < 1024 then " (".toList ++ thousands ++ [')']
    else " (".toList ++ thousands ++ ", ".toList ++ powers ++ [')']
  Number.digits 10 size ++ (if size = 1 then " byte" else " bytes").toList ++ inUnits ++
    " copied".toList

/-! ### Changes -/

/-- Neighbours change places. -/
def swapped : Octets → Octets
  | first :: second :: rest => second :: first :: swapped rest
  | text => text

/-- Records of a size for lines, and how many lines are too long for one. -/
def recordsOf (size : Nat) (text : Octets) : Octets × Nat :=
  let lines := plainLines text
  (lines.flatMap fun line ↦ line.take size ++ List.replicate (size - line.length) ' ',
    lines.countP fun line ↦ size < line.length)

/-- Lines for records of a size. -/
def linesOf (size : Nat) : (left : Nat) → Octets → Octets
  | 0, _ => []
  | _ + 1, [] => []
  | left + 1, text =>
    let line := ((text.take size).reverse.dropWhile (· == ' ')).reverse
    line ++ '\n' :: linesOf size left (text.drop size)

/-- What is copied of a text, and how many lines were too long. -/
def BlockRule.change (rule : BlockRule) (text : Octets) : Octets × Nat :=
  let has := rule.changes.contains
  let text := if has .fromEbcdic then Charset.toPlain text else text
  let text :=
    if has .upper then text.map Char.toUpper
    else if has .lower then text.map Char.toLower
    else text
  let text := if has .swap then swapped text else text
  let size := rule.recordSize.getD 1
  let (text, cutLines) :=
    if has .block then recordsOf size text
    else if has .unblock then (linesOf size (text.length + 1) text, 0)
    else (text, 0)
  let text :=
    if has .toEbcdic then Charset.toBlocks text
    else if has .toPrinters then Charset.toPrinters text
    else text
  (text, cutLines)

/-- What is read of a text and changed, and the numbers of blocks that are told about it. -/
structure BlockCopy where
  output : Octets
  wholeRead : Nat
  shortRead : Nat
  wholeWritten : Nat
  shortWritten : Nat
  cutLines : Nat

namespace BlockCopy

/-- Nothing is copied. -/
def empty : BlockCopy :=
  ⟨[], 0, 0, 0, 0, 0⟩

/-- The copy of a text. -/
def of (rule : BlockRule) (text : Octets) : BlockCopy :=
  let size := rule.sizeToRead
  let wholeRead := text.length / size
  let left := text.length % size
  let shortRead := min 1 left
  let fills := rule.changes.contains .fill && left != 0
  let isRow := rule.changes.contains .block || rule.changes.contains .unblock
  let filler := if isRow then ' ' else '\x00'
  let text := if fills then text ++ List.replicate (size - left) filler else text
  let (output, cutLines) := rule.change text
  let (wholeWritten, shortWritten) :=
    if rule.gathers then
      (output.length / rule.sizeToWrite, min 1 (output.length % rule.sizeToWrite))
    else if fills then (wholeRead + shortRead, 0)
    else (wholeRead, shortRead)
  { output, wholeRead, shortRead, wholeWritten, shortWritten, cutLines }

/-- What is told of a copy. -/
def told (copy : BlockCopy) (report : BlockReport) : Octets :=
  let numbers := fun (whole short : Nat) (what : String) ↦
    Number.digits 10 whole ++ '+' :: Number.digits 10 short ++ (" records " ++ what ++ "\n").toList
  let records := numbers copy.wholeRead copy.shortRead "in" ++
    numbers copy.wholeWritten copy.shortWritten "out" ++
    (if copy.cutLines = 0 then []
    else Number.digits 10 copy.cutLines ++
      (if copy.cutLines = 1 then " truncated record\n" else " truncated records\n").toList)
  match report with
  | .nothing => []
  | .records => records
  | .transfer => records ++ copiedText copy.output.length ++ ", 0.0001 s, 1.0 MB/s\n".toList

end BlockCopy

namespace BlockRule

/-- A text of at least so many octets. -/
def reaching (size : Nat) (text : Octets) : Octets :=
  text ++ List.replicate (size - text.length) '\x00'

/-- What is left of the file that is written, before the copy. -/
def cleared (rule : BlockRule) (held : Octets) : Octets :=
  if rule.changes.contains .keep then held
  else if rule.sought / rule.sizeToWrite = 0 then []
  else reaching rule.sought (held.take rule.sought)

/-- A file with the copy in it. -/
def placed (rule : BlockRule) (held output : Octets) : Octets :=
  if output.isEmpty then held
  else if rule.writeMarks.contains .appends then held ++ output
  else
    reaching rule.sought (held.take rule.sought) ++ output ++
      held.drop (rule.sought + output.length)

/-- Makes the file ready that the copy goes to; what it holds is given too. -/
def opened (rule : BlockRule) (task : Task) (target : Octets) :
    Except SystemError (FileTree × Octets) := do
  let held? := (task.tree.entryAt task.here (pathOf target)).toOption
  if rule.changes.contains .isNew && held?.isSome then throw .exists
  if rule.changes.contains .isOld && held?.isNone then throw .notFound
  let held :=
    match held? with
    | some (.file octets _) => rule.cleared (Octets.ofBytes octets)
    | _ => rule.cleared []
  return (← task.store task.tree target held, held)

/-- Copies what a task tells to the file of a name, or to the output. -/
def copy (rule : BlockRule) (task : Task) : Effect :=
  let source := rule.source.getD ['-']
  let refuse := fun (operand : Octets) (error : SystemError) ↦
    task.complain 1 ("failed to open '".toList ++ operand ++ ("': " ++ error.reason).toList)
  let told := fun (copy : BlockCopy) ↦ (2, copy.told rule.report)
  match task.contents source with
  | .error error =>
    if error = .isDirectory then
      let shown := "error reading ".toList ++ Quoting.plain source ++
        (": " ++ error.reason).toList
      ⟨1, [(2, task.message shown), told .empty], task.input, none, [], 0⟩
    else refuse source error
  | .ok _ =>
    if rule.readMarks.contains .isDirectory then refuse source .notDirectory
    else
    let streams : List (String × Nat) := [("/dev/stdout", 1), ("/dev/stderr", 2)]
    let target? := rule.target.filter fun target ↦ (streams.lookup (Octets.toText target)).isNone
    let descriptor := (rule.target.bind fun target ↦ streams.lookup (Octets.toText target)).getD 1
    let opened : Except SystemError (FileTree × Octets) :=
      match target? with
      | none => .ok (task.tree, [])
      | some target => rule.opened task target
    match opened with
    | .error error => refuse (target?.getD []) error
    | .ok (tree, held) =>
      let task := { task with tree }
      let text := (task.contents source).toOption.getD []
      let rest := text.drop rule.skipped
      let taken := (rule.limit?.map rest.take).getD rest
      let copy := BlockCopy.of rule taken
      let input := if Task.isInput source then rest.drop taken.length else task.input
      let name :=
        if rule.source.isNone then "'standard input'".toList else Quoting.shellIfNeeded source
      let lead :=
        if rule.skipped ≤ text.length || rule.report = BlockReport.nothing then []
        else [(2, task.message (name ++ ": cannot skip to specified offset".toList))]
      match target? with
      | none =>
        if rule.sought ≠ 0 ∧ task.outputPlace.isNone ∧ rule.target.isNone then
          let shown := "'standard output': cannot seek: Illegal seek".toList
          ⟨1, lead ++ [(2, task.message shown), told .empty], input, none, [], 0⟩
        else
          let gap := if copy.output.isEmpty then 0 else rule.sought
          let output := List.replicate gap '\x00' ++ copy.output
          ⟨0, lead ++ [(descriptor, output), told copy], input, none, [], 0⟩
      | some target =>
        match task.store tree target (rule.placed held copy.output) with
        | .ok tree => ⟨0, lead ++ [told copy], input, some tree, [], 0⟩
        | .error error =>
          let shown := "error writing ".toList ++ Quoting.plain target ++
            (": " ++ error.reason).toList
          ⟨1, lead ++ [(2, task.message shown), told .empty], input, none, [], 0⟩

end BlockRule

/-- Copies blocks. -/
def dd : Utility :=
  ofOptions "dd" ⟨[], [], [], false⟩ 1 fun task options ↦
    match BlockRule.read options.operands with
    | .error (.hinted text) => task.misuse 1 text
    | .error (.plain text) => task.complain 1 text.toList
    | .ok rule =>
      let warning := task.message
        "warning: '0x' is a zero multiplier; use '00x' if that is intended".toList
      let effect := rule.copy task
      { effect with written := (List.replicate rule.zeros (2, warning)) ++ effect.written }

end Scaffold.Shell.Utility
