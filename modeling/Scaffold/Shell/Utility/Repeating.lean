import Scaffold.Shell.Launcher
import Scaffold.Shell.Utility.Basic

/-!
# Running a program for the items of the input

`xargs` has a program run with some items after another. The items are words between blanks, where
quotes and backslashes keep a word together (`Items.ofText`), whole lines (`Items.ofLines`), or the
parts between marks (`Items.between`). Where they end with a mistake, the commands that are whole
are run.

The options ask for an `ItemRule`. How many items a program is run with is told by their number, by
the number of lines, or by a mark that one item takes the place of; of these the last one wins, and
the others are warned about. A program that fails does not keep the next one from being run, unless
its status says so.
-/

set_option autoImplicit false

namespace Scaffold.Shell

open Text (Octets)

/-! ### Items -/

/-- Items of a text, and the line that each starts on; `open_` is a quote that does not end. -/
structure Items where
  found : List (Nat × Octets)
  open_ : Option Char

/-- Where the reading of items stands: what is read of an item, and the number of its line. A line
that ends with a blank goes on in the next one. -/
structure ItemReading where
  word : Option Octets
  line : Nat
  isBlank : Bool

namespace Items

/-- The items with one in front, if one was read. -/
def push (items : Items) (reading : ItemReading) : Items :=
  match reading.word with
  | some word => { items with found := (reading.line, word.reverse) :: items.found }
  | none => items

/-- Cuts a text into items at blanks, where quotes and backslashes keep an item together. -/
def ofText : (quote : Option Char) → ItemReading → Octets → Items
  | none, reading, [] => push ⟨[], none⟩ reading
  | some quote, _, [] => ⟨[], some quote⟩
  | some quote, reading, c :: rest =>
    if c = quote then ofText none reading rest
    else if c = '\n' then ⟨[], some quote⟩
    else ofText (some quote) { reading with word := some (c :: reading.word.getD []) } rest
  | none, reading, ['\\'] => push ⟨[], none⟩ reading
  | none, reading, '\\' :: c :: rest =>
    ofText none { reading with word := some (c :: reading.word.getD []), isBlank := false } rest
  | none, reading, c :: rest =>
    if c = '\n' then
      let line := if reading.isBlank then reading.line else reading.line + 1
      push (ofText none ⟨none, line, reading.isBlank⟩ rest) reading
    else if c = ' ' ∨ c = '\t' then
      push (ofText none ⟨none, reading.line, true⟩ rest) reading
    else
      let word := reading.word.getD []
      if c = '\x27' ∨ c = '\x22' then
        ofText (some c) ⟨some word, reading.line, false⟩ rest
      else ofText none ⟨some (c :: word), reading.line, false⟩ rest

/-- The items of a text that is cut at blanks. -/
def words (text : Octets) : Items :=
  ofText none ⟨none, 0, false⟩ text

/-- A line without its quotes and backslashes, and the quote in it that does not end. -/
def plainLine : (quote : Option Char) → Octets → Octets × Option Char
  | quote, [] => ([], quote)
  | none, ['\\'] => ([], none)
  | none, '\\' :: c :: rest =>
    let (line, quote) := plainLine none rest
    (c :: line, quote)
  | none, c :: rest =>
    if c = '\x27' ∨ c = '\x22' then plainLine (some c) rest
    else
      let (line, quote) := plainLine none rest
      (c :: line, quote)
  | some quote, c :: rest =>
    if c = quote then plainLine none rest
    else
      let (line, open_) := plainLine (some quote) rest
      (c :: line, open_)

/-- The lines that are not blank, without the blanks at their front and without their quotes. -/
def ofLines (text : Octets) : Items :=
  let lines := (plainLines text).map (·.dropWhile Char.isWhitespace)
  let read := (lines.filter (! ·.isEmpty)).map (plainLine none)
  let whole := read.takeWhile (·.2.isNone)
  ⟨whole.zipIdx.map fun ((line, _), number) ↦ (number, line),
    (read.drop whole.length).head?.bind (·.2)⟩

/-- The parts of a text that a mark ends. -/
def between (mark : Char) (text : Octets) : Items :=
  let (parts, last) := partsOf (· == mark) text
  ⟨(if last.isEmpty then parts else parts ++ [last]).zipIdx.map fun (part, line) ↦ (line, part),
    none⟩

/-- The items in front of one that ends them. -/
def before (items : Items) (last : Octets) : Items :=
  let found := items.found.takeWhile fun (item : Nat × Octets) ↦ item.2 != last
  ⟨found, if found.length < items.found.length then none else items.open_⟩

/-- An item holds a zero octet. -/
def holdsZero (items : Items) : Bool :=
  items.found.any fun item ↦ item.2.contains '\x00'

/-- The items up to a zero octet in each. -/
def upToZero (items : Items) : Items :=
  { items with found := items.found.map fun (line, word) ↦ (line, word.takeWhile (· != '\x00')) }

end Items

/-! ### Marks -/

/-- The character that a text after a backslash stands for. -/
def markEscape? : Octets → Option Char
  | [c] =>
    if Number.isOctal c then some (Char.ofNat (Text.digitValue c))
    else
      ([('a', '\x07'), ('b', '\x08'), ('f', '\x0c'), ('n', '\n'), ('r', '\r'), ('t', '\t'),
        ('v', '\x0b'), ('\\', '\\')] : List (Char × Char)).lookup c
  | 'x' :: digits =>
    if digits.all Number.isHexadecimal && Text.digitsValue 16 digits < 256 then
      some (Char.ofNat (Text.digitsValue 16 digits))
    else none
  | digits =>
    if !digits.isEmpty && digits.all Number.isOctal && Text.digitsValue 8 digits < 256 then
      some (Char.ofNat (Text.digitsValue 8 digits))
    else none

/-- The mark between items that a text gives, or what is wrong with it. -/
def itemMark (text : Octets) : Except Octets Char :=
  match text with
  | [c] => .ok c
  | '\\' :: rest =>
    match markEscape? rest with
    | some c => .ok c
    | none =>
      .error ("Invalid escape sequence ".toList ++ text ++
        " in input delimiter specification.".toList)
  | text =>
    .error ("Invalid input delimiter specification ".toList ++ text ++
      (": the delimiter must be either a single character or an escape sequence " ++
        "starting with \\.").toList)

/-! ### Rules -/

/-- How many items a program is run with. -/
inductive ItemShare
  | all
  | items (most : Nat)
  | lines (most : Nat)
  /-- One item takes the place of a mark. -/
  | inPlace (mark : Octets)

/-- What the options ask for. -/
structure ItemRule where
  share : ItemShare
  /-- The octets of a command, with one more for each word of it. -/
  room : Nat
  /-- A command that is too long ends all. -/
  exits : Bool
  /-- The character between items; blanks if there is none. -/
  mark : Option Char
  /-- The item that ends the items. -/
  last : Option Octets
  source : Option Octets
  /-- The setting that tells which of the programs that run at once it is. -/
  slot : Option Octets
  /-- What is warned about. -/
  warnings : List String

/-- What is wrong with the options; where to read more is told too if it is `hinted`. -/
inductive ItemFault
  | hinted (text : String)
  | plain (text : Octets)

namespace ItemShare

/-- How a message calls an option that is told before another one. -/
def name : ItemShare → Option String
  | all => none
  | items _ => some "--max-args"
  | lines _ => some "--max-lines"
  | inPlace _ => some "--replace"

end ItemShare

namespace ItemRule

/-- What is asked for where no option says otherwise. -/
def standard : ItemRule where
  share := .all
  room := 131072
  exits := false
  mark := none
  last := none
  source := none
  slot := none
  warnings := []

/-- The form of the options. -/
def form : OptionForm where
  flags := ['r', '0', 't', 'x', 'p', 'o', '\x01']
  valued := ['n', 'I', 'L', 'd', 'P', 's', 'E', 'a', 'i', 'l', 'e', '\x02']
  long := [("no-run-if-empty", 'r'), ("null", '0'), ("arg-file", 'a'), ("delimiter", 'd'),
    ("eof", 'e'), ("replace", 'i'), ("max-lines", 'l'), ("max-args", 'n'), ("max-chars", 's'),
    ("max-procs", 'P'), ("interactive", 'p'), ("open-tty", 'o'), ("verbose", 't'),
    ("show-limits", '\x01'), ("exit", 'x'), ("process-slot-var", '\x02')]
  stopsEarly := true

/-- The letters of options that may go without a value, each with its name and the value that it has
then. -/
def optional : List (Char × String × String) :=
  [('l', "--max-lines=", "1"), ('i', "--replace=", "\x7b\x7d"), ('e', "--eof=", "")]

/-- Arguments where each option that may go without a value has one. -/
def filled : List Octets → List Octets
  | [] => []
  | word :: rest =>
    match word with
    | ['-', '-'] => word :: rest
    | '-' :: '-' :: name =>
      let letter? := if name.contains '=' then none
        else (Options.long? form word name).toOption.map (·.2)
      match letter?.bind fun letter ↦ optional.lookup letter with
      | some (text, value) => (text ++ value).toList :: filled rest
      | none =>
        if letter?.any form.valued.contains then word :: rest.take 1 ++ filled (rest.drop 1)
        else word :: filled rest
    | '-' :: letters =>
      if letters.isEmpty then word :: rest
      else
        let flags := letters.takeWhile fun c ↦ !form.valued.contains c
        match letters.drop flags.length with
        | [] => word :: filled rest
        | letter :: value =>
          match optional.lookup letter with
          | some (text, standard) =>
            (if flags.isEmpty then [] else ['-' :: flags]) ++
              (text.toList ++ if value.isEmpty then standard.toList else value) :: filled rest
          | none =>
            if value.isEmpty then word :: rest.take 1 ++ filled (rest.drop 1)
            else word :: filled rest
    | word => word :: rest
termination_by words => words.length
decreasing_by all_goals grind

/-- The number that is the value of an option, and what is wrong with it. -/
def number (letter : Char) (least : Int) (text : Octets) : Except String (Int × Option String) :=
  let shown := " for -" ++ String.ofList [letter] ++ " option"
  match Number.decimal? text with
  | none => .error ("invalid number \"" ++ Octets.toText text ++ "\"" ++ shown)
  | some value =>
    if value < least then
      .ok (least, some ("value " ++ Octets.toText text ++ shown ++ " should be >= " ++
        Octets.toText (Number.text least)))
    else .ok (value, none)

/-- The number that is the value of an option and has to be right. -/
def wholeNumber (letter : Char) (least : Int) (text : Octets) : Except ItemFault Nat :=
  match number letter least text with
  | .ok (value, none) => .ok value.toNat
  | .ok (_, some wrong) => .error (.hinted wrong)
  | .error wrong => .error (.hinted wrong)

/-- The rule with another share; an option that is told before and does not go with it is warned
about. -/
def sharing (rule : ItemRule) (share : ItemShare) (called : String) : ItemRule :=
  let isSame := rule.share.name == share.name
  let warning := rule.share.name.map fun name ↦
    "warning: options " ++ name ++ " and " ++ called ++ " are mutually exclusive, ignoring " ++
      "previous " ++ name ++ " value"
  { rule with
    share
    warnings := rule.warnings ++ if isSame then [] else warning.toList }

/-- Takes an option. -/
def take (rule : ItemRule) (option : Char × Octets) : Except ItemFault ItemRule := do
  let (letter, text) := option
  match letter with
  | 'n' =>
    let most ← wholeNumber letter 1 text
    match rule.share, most with
    | .inPlace _, 1 => return rule
    | _, most => return rule.sharing (.items most) "--max-args/-n"
  | 'L' =>
    return { rule.sharing (.lines (← wholeNumber letter 1 text)) "-L" with exits := true }
  | 'l' =>
    return { rule.sharing (.lines (← wholeNumber letter 1 text)) "--max-lines/-l" with
      exits := true }
  | 'I' | 'i' => return { rule.sharing (.inPlace text) "--replace/-I/-i" with exits := true }
  | 'P' =>
    let _ ← wholeNumber letter 0 text
    return rule
  | 's' =>
    match number letter 1 text with
    | .error wrong => throw (.hinted wrong)
    | .ok (room, wrong?) =>
      return { rule with
        room := room.toNat
        warnings := rule.warnings ++ wrong?.toList }
  | 'E' | 'e' => return { rule with last := if text.isEmpty then none else some text }
  | '0' => return { rule with mark := some '\x00' }
  | 'd' =>
    match itemMark text with
    | .ok mark => return { rule with mark := some mark }
    | .error wrong => throw (.plain wrong)
  | 'a' => return { rule with source := some text }
  | 'x' => return { rule with exits := true }
  | '\x02' =>
    if text.contains '=' then
      throw (.plain ("option --process-slot-var may not be set to a value which includes " ++
        "\x60='").toList)
    else return { rule with slot := some text }
  | _ => return rule

/-- The rule that options give. -/
def read (options : Options) : Except ItemFault ItemRule :=
  options.found.foldlM take standard

/-- The items of a text. -/
def items (rule : ItemRule) (text : Octets) : Items :=
  match rule.mark, rule.share with
  | some mark, _ => Items.between mark text
  | none, .inPlace _ => rule.last.elim (Items.ofLines text) (Items.ofLines text).before
  | none, _ => rule.last.elim (Items.words text) (Items.words text).before

end ItemRule

/-! ### Shares -/

/-- The shares of items: those that are whole, the one that is still open, its lines and its octets,
and what is wrong with the items that follow. -/
structure ItemShares where
  whole : List (List Octets)
  open_ : List Octets
  lines : List Nat
  size : Nat
  wrong : Option String

namespace ItemShares

/-- Ends the open share. -/
def close (shares : ItemShares) : ItemShares :=
  if shares.open_.isEmpty then shares
  else { shares with
    whole := shares.open_.reverse :: shares.whole
    open_ := []
    lines := []
    size := 0 }

/-- The open share can take no item more of a line. -/
def isFull (shares : ItemShares) (share : ItemShare) (line : Nat) : Bool :=
  match share with
  | .items most => most ≤ shares.open_.length
  | .lines most => !shares.lines.contains line && most ≤ shares.lines.length
  | _ => false

/-- Takes one more item, for a command whose other words take so many octets. -/
def take (rule : ItemRule) (fixed : Nat) (shares : ItemShares) (item : Nat × Octets) :
    ItemShares :=
  if shares.wrong.isSome then shares
  else
    let (line, word) := item
    let size := word.length + 1
    let shares := if shares.isFull rule.share line then shares.close else shares
    if rule.room < fixed + size then { shares with wrong := some "argument line too long" }
    else
      let isOver := rule.room < fixed + shares.size + size
      let keeps :=
        match rule.share with
        | .all => false
        | _ => rule.exits
      if isOver && keeps then { shares with wrong := some "argument list too long" }
      else
        let shares := if isOver then shares.close else shares
        { shares with
          open_ := word :: shares.open_
          lines := if shares.lines.contains line then shares.lines else line :: shares.lines
          size := shares.size + size }

/-- The shares of items; `wrong` follows the last of them. -/
def of (rule : ItemRule) (fixed : Nat) (items : List (Nat × Octets)) (wrong : Option String) :
    ItemShares :=
  let shares := items.foldl (take rule fixed) ⟨[], [], [], 0, none⟩
  { shares with wrong := shares.wrong <|> wrong }

/-- The shares that a program is run with. -/
def all (shares : ItemShares) (share : ItemShare) (exits : Bool) : List (List Octets) :=
  let isWhole :=
    match share with
    | .items most => most ≤ shares.open_.length
    | _ => false
  if shares.wrong.isSome && exits && !isWhole then shares.whole.reverse
  else shares.close.whole.reverse

end ItemShares

namespace Errand

/-- The octets that words take in a command. -/
def sizeOf (words : List Octets) : Nat :=
  words.foldl (fun size word ↦ size + word.length + 1) 0

/-- Words of a command as they are shown. -/
def shownWords (words : List Octets) : Octets :=
  ((words.map Quoting.shellWord).intersperse [' ']).flatten

/-- Has programs run one after the other, and goes on with the status that they come to. -/
def inTurn (task : Task) (tells : Bool) (next : Nat → Errand) : (status : Nat) → List Order → Errand
  | status, [] => next status
  | status, order :: rest =>
    let name := order.words.headD []
    let next :=
      run order fun outcome _ ↦
        let ending := outcome.status.getD 124
        if let some signal := outcome.signal then
          write 2 (task.message (name ++ (": terminated by signal " ++ toString signal).toList))
            (done 125)
        else if !outcome.isStarted then done ending
        else if ending = 0 then inTurn task tells next status rest
        else if ending = 255 then
          write 2 (task.message (name ++ ": exited with status 255; aborting".toList)) (done 124)
        else inTurn task tells next 123 rest
    if tells then write 2 (shownWords order.words ++ ['\n']) next else next

/-- The commands that a mark in a program's words stands for, and what is wrong with the one after
them. -/
def inPlace (room : Nat) (mark : Octets) (command : List Octets) :
    List (Nat × Octets) → List (List Octets) × Option String
  | [] => ([], none)
  | (_, item) :: items =>
    let words := command.map fun word ↦ substituted mark item (word.length + 1) word
    if mark.isEmpty then ([], some "command too long")
    else if room < item.length + 1 then ([], some "argument line too long")
    else if room < sizeOf words then ([], some "argument list too long")
    else
      let (others, wrong) := inPlace room mark command items
      (words :: others, wrong)

/-- The commands that items are run with, and what is wrong after them. -/
def commands (rule : ItemRule) (runsEmpty : Bool) (command : List Octets) (items : Items) :
    List (List Octets) × Option String :=
  let unmatched := items.open_.map fun quote ↦
    "unmatched " ++ (if quote = '\x27' then "single" else "double") ++
      " quote; by default quotes are special to xargs unless you use the -0 option"
  match rule.share with
  | .inPlace mark =>
    let (found, wrong) := inPlace rule.room mark command items.found
    (found, wrong <|> unmatched)
  | share =>
    if rule.room < sizeOf command then
      ([], some "cannot fit single argument within argument list size limit")
    else
      let shares := ItemShares.of rule (sizeOf command) items.found unmatched
      let found := (shares.all share rule.exits).map (command ++ ·)
      (if items.found.isEmpty && shares.wrong.isNone && runsEmpty then [command] else found,
        shares.wrong)

/-- What is said about a zero octet among the items. -/
def zeroWarning : Octets :=
  ("WARNING: a NUL character occurred in the input.  It cannot be passed through in the " ++
    "argument list.  Did you mean to use the --null option?").toList

/-- What `xargs` does. -/
def ofInput (task : Task) : Errand :=
  match Options.parse ItemRule.form (ItemRule.filled task.arguments) with
  | .error text => misused task 1 text
  | .ok options =>
    match ItemRule.read options with
    | .error (.hinted text) => misused task 1 text
    | .error (.plain text) => ofEffect (task.complain 1 text)
    | .ok rule =>
      let useless := rule.mark.isSome && rule.last.isSome
      let warnings := rule.warnings ++
        if useless then ["warning: the -E option has no effect if -0 or -d is used.\n"] else []
      writeAll (warnings.map fun text ↦ (2, task.message text.toList)) <|
      let command := if options.operands.isEmpty then ["echo".toList] else options.operands
      match (rule.source.map task.contents).getD (.ok task.input) with
      | .error error =>
        ofEffect (task.complain 1 ("Cannot open input file '".toList ++ rule.source.getD [] ++
          ("': " ++ error.reason).toList))
      | .ok text =>
        let items := rule.items text
        let (found, wrong?) := commands rule (!options.has 'r') command items.upToZero
        let slot := rule.slot.toList.map fun name ↦ (name, ['0'])
        let settings := slot ++ task.settings.filter fun entry ↦ rule.slot != some entry.1
        let orders := found.map fun words ↦
          { task.order "" words with
            settings
            isSilent := rule.source.isNone
            failure := (task.name ++ ": ", "") }
        let tells := options.has 't'
        let zeros := if items.holdsZero then [(2, task.message zeroWarning)] else []
        (if rule.source.isNone then drain else id) <| writeAll zeros <|
        if options.has 'p' && !found.isEmpty then
          let refusal := "failed to open /dev/tty for reading: No such device or address".toList
          write 2 (shownWords (found.headD []) ++ task.message refusal) (done 1)
        else
          match wrong? with
          | none => inTurn task tells done 0 orders
          | some wrong =>
            inTurn task tells
              (fun _ ↦ write 2 (task.message wrong.toList)
                (inTurn task tells (fun _ ↦ done 1) 0 (orders.drop (orders.length - 1))))
              0 orders.dropLast

end Errand

end Scaffold.Shell
