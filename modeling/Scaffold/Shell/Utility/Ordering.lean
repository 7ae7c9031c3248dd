import Scaffold.Shell.Decimal
import Scaffold.Shell.Quoting
import Scaffold.Shell.Utility.Copying
import Scaffold.Text.Digits
import Scaffold.Text.Octets

/-!
# Ordering lines

`sort` compares lines by keys, one way round or the other. A key is a part of a line, from one place
to another one, with the way it is compared: as a text or as a number of some kind. `SortKey.part`
is the part, and `orderOf` the way. Lines with equal keys are compared as a whole, unless
their order is to stay as it was.

Names with versions are compared part by part (`Version.order`): numbers in them by their values,
all else octet by octet, where a tilde comes before the end. Endings such as `.tar.gz` count only
between names that are otherwise alike, and hidden names come first.
-/

set_option autoImplicit false

namespace Scaffold.Shell.Version

open Text (Octets)

/-! ### The order of versions -/

/-- The rank of the octet that a text begins with. -/
def rank : Octets → Int
  | [] => -1
  | c :: _ =>
    if c.isDigit then 0 else if c.isAlpha then c.toNat else if c = '~' then -2 else c.toNat + 256

/-- The text begins with an octet that is no digit. -/
def startsPlain (text : Octets) : Bool :=
  text.head?.any fun c ↦ !c.isDigit

/-- Compares texts up to their next numbers; gives what follows if that makes no difference. -/
def plainOrder : (left : Nat) → Octets → Octets → Except Ordering (Octets × Octets)
  | 0, first, second => .ok (first, second)
  | left + 1, first, second =>
    if startsPlain first || startsPlain second then
      if rank first == rank second then plainOrder left (first.drop 1) (second.drop 1)
      else .error (compare (rank first) (rank second))
    else .ok (first, second)

/-- Compares texts part by part. -/
def partOrder : (left : Nat) → Octets → Octets → Ordering
  | 0, _, _ => .eq
  | _ + 1, [], [] => .eq
  | left + 1, first, second =>
    match plainOrder (first.length + second.length + 1) first second with
    | .error found => found
    | .ok (first, second) =>
      let one := first.takeWhile Char.isDigit
      let two := second.takeWhile Char.isDigit
      (compare (Text.digitsValue 10 one) (Text.digitsValue 10 two)).then
        (partOrder left (first.drop one.length) (second.drop two.length))

/-- The length of the ending that a text begins with: a point, a letter or tilde, and more of those
or digits. -/
def endingLength : Octets → Nat
  | '.' :: c :: rest =>
    if c.isAlpha || c == '~' then
      2 + (rest.takeWhile fun c ↦ c.isAlphanum || c == '~').length
    else 0
  | _ => 0

/-- The text consists of endings. -/
def isEndings : (left : Nat) → Octets → Bool
  | 0, text => text.isEmpty
  | left + 1, text =>
    text.isEmpty || (endingLength text > 0 && isEndings left (text.drop (endingLength text)))

/-- A name without its endings, which may be all of it. -/
def withoutEndings : Octets → Octets
  | [] => []
  | c :: rest =>
    if isEndings (rest.length + 2) (c :: rest) then [] else c :: withoutEndings rest

/-- The rank of a name by whether it is hidden, or a directory of its own. -/
def kindRank (name : Octets) : Nat :=
  if name.isEmpty then 0
  else if name = ['.'] then 1
  else if name = ['.', '.'] then 2
  else if name.head? = some '.' then 3
  else 4

/-- The order of names as versions. -/
def order (first second : Octets) : Ordering :=
  let whole := partOrder (first.length + second.length + 1)
  (compare (kindRank first) (kindRank second)).then <|
    (whole (withoutEndings first) (withoutEndings second)).then (whole first second)

end Scaffold.Shell.Version

namespace Scaffold.Shell.Utility

open Text (Octets)


/-! ### Places and keys -/

/-- A place in a line: so many fields, and so many octets after them. -/
structure LinePlace where
  fields : Nat
  octets : Nat
  deriving DecidableEq, Repr

/-- A part of a line to compare, and how. -/
structure SortKey where
  start : LinePlace
  /-- Where the part ends: after the fields, and if octets are to follow, before the next mark. -/
  finish : Option LinePlace
  letters : List Char
  /-- Blanks at the start are passed over. -/
  skipsBefore : Bool
  /-- Blanks are passed over before the octets of the end are counted. -/
  skipsAfter : Bool
  deriving Repr

namespace SortKey

/-- The letters that say how a key is compared. -/
def kinds : List Char :=
  ['b', 'd', 'f', 'g', 'h', 'i', 'M', 'n', 'R', 'r', 'V']

/-- The key has a way of its own to be compared. -/
def isOwn (key : SortKey) : Bool :=
  !key.letters.isEmpty || key.skipsBefore || key.skipsAfter

/-- A key that is a whole line. -/
def whole : SortKey :=
  ⟨⟨0, 0⟩, none, [], false, false⟩

/-- What is wrong with the text of a key. -/
inductive Fault
  | badCount (place : String) (text : Octets)
  | badField (what : String) (text : Octets)

/-- The message about a fault. -/
def Fault.message : Fault → Octets
  | .badCount place text =>
    place.toList ++ ": invalid count at start of ".toList ++ Quoting.plain text
  | .badField what text =>
    what.toList ++ ": invalid field specification ".toList ++ Quoting.plain text

/-- Reads a count. -/
def count? (place : String) (text : Octets) : Except Fault (Nat × Octets) :=
  let digits := (text.dropWhile Char.isWhitespace).takeWhile Char.isDigit
  if digits.isEmpty then .error (.badCount place text)
  else .ok (Text.digitsValue 10 digits,
    (text.dropWhile Char.isWhitespace).drop digits.length)

/-- Takes the letters that say how a key is compared. -/
def takeLetters (text : Octets) : List Char × Octets :=
  (text.takeWhile kinds.contains, text.dropWhile kinds.contains)

/-- Reads a key. -/
def read (text : Octets) : Except Fault SortKey := do
  let zeroField := Fault.badField "field number is zero" text
  let (field, rest) ← count? "invalid number at field start" text
  if field = 0 then throw zeroField
  let (octet, rest) ←
    match rest with
    | '.' :: rest => count? "invalid number after '.'" rest
    | rest => pure (1, rest)
  if octet = 0 then throw (.badField "character offset is zero" text)
  let (letters, rest) := takeLetters rest
  let start : LinePlace := ⟨field - 1, octet - 1⟩
  let (finish, more, rest) ←
    match rest with
    | ',' :: rest => do
      let (field, rest) ← count? "invalid number after ','" rest
      if field = 0 then throw zeroField
      let (octets, rest) ←
        match rest with
        | '.' :: rest => count? "invalid number after '.'" rest
        | rest => pure (0, rest)
      let (more, rest) := takeLetters rest
      pure (some (if octets = 0 then ⟨field, 0⟩ else ⟨field - 1, octets⟩), more, rest)
    | rest => pure (none, [], rest)
  if !rest.isEmpty then throw (.badField "stray character in field spec" text)
  return ⟨start, finish, (letters ++ more).filter (· != 'b'), letters.contains 'b',
    more.contains 'b'⟩

/-- Reads a place that counts from zero, after a sign; none if it is no place. -/
def oldPlace? (text : Octets) : Option (LinePlace × List Char) := do
  let (fields, rest) ← (count? "" text).toOption
  let (octets, rest) ←
    match rest with
    | '.' :: rest => (count? "" rest).toOption
    | rest => some (0, rest)
  let (letters, rest) := takeLetters rest
  if rest.isEmpty then some (⟨fields, octets⟩, letters) else none

/-- The key between places that count from zero. -/
def ofOldPlaces (start : LinePlace × List Char) (finish? : Option (LinePlace × List Char)) :
    SortKey :=
  let more := (finish?.map (·.2)).getD []
  ⟨start.1, finish?.map (·.1), (start.2 ++ more).filter (· != 'b'), start.2.contains 'b',
    more.contains 'b'⟩

/-- A blank between fields. -/
def isBlank (c : Char) : Bool :=
  c == ' ' || c == '\t' || c == '\n'

/-- How many octets so many fields take. A mark after the last of them counts if `passesLast`. -/
def fieldsLength (separator : Option Char) (passesLast : Bool) : (fields : Nat) → Octets → Nat
  | 0, _ => 0
  | fields + 1, text =>
    let length :=
      match separator with
      | some mark =>
        let field := (text.takeWhile (· != mark)).length
        if field < text.length && (passesLast || fields > 0) then field + 1 else field
      | none =>
        let blanks := (text.takeWhile isBlank).length
        blanks + ((text.drop blanks).takeWhile fun c ↦ !isBlank c).length
    if text.isEmpty then 0
    else length + fieldsLength separator passesLast fields (text.drop length)

/-- The part of a line that a key is about. -/
def part (key : SortKey) (separator : Option Char) (line : Octets) : Octets :=
  let blanks (skips : Bool) (text : Octets) : Nat :=
    if skips then (text.takeWhile isBlank).length else 0
  let before := fieldsLength separator true key.start.fields line
  let start := before + blanks key.skipsBefore (line.drop before) + key.start.octets
  match key.finish with
  | none => line.drop start
  | some finish =>
    let before := fieldsLength separator (finish.octets > 0) finish.fields line
    let stop :=
      if finish.octets = 0 then before
      else before + blanks key.skipsAfter (line.drop before) + finish.octets
    (line.take stop).drop start

end SortKey

/-! ### Ways to compare -/

/-- A decimal number: its value in units of a power of ten, and that power. -/
structure Fixed where
  value : Int
  places : Nat
  deriving Repr

/-- The value in units of a smaller power of ten. -/
def Fixed.scaled (number : Fixed) (places : Nat) : Int :=
  number.value * Nat.pow 10 (places - number.places)

/-- The decimal number at the front of a text, or zero. -/
def leadingNumber (text : Octets) : Fixed :=
  let text := text.dropWhile SortKey.isBlank
  let (isNegative, body) :=
    match text with
    | '-' :: rest => (true, rest)
    | text => (false, text)
  let whole := body.takeWhile Char.isDigit
  let fraction :=
    match body.drop whole.length with
    | '.' :: rest => rest.takeWhile Char.isDigit
    | _ => []
  let value : Int := Text.digitsValue 10 (whole ++ fraction)
  ⟨if isNegative then -value else value, fraction.length⟩

/-- The order of decimal numbers. -/
def Fixed.order (first second : Fixed) : Ordering :=
  let places := max first.places second.places
  compare (first.scaled places) (second.scaled places)

/-- The rank of the letter after a number, by the power of a thousand that it stands for; negative
for a negative number, and zero for the number zero. -/
def unitRank (text : Octets) : Int :=
  let text := text.dropWhile SortKey.isBlank
  let isNegative := text.head? = some '-'
  let body := if isNegative then text.drop 1 else text
  let whole := body.takeWhile Char.isDigit
  let fraction :=
    match body.drop whole.length with
    | '.' :: rest => '.' :: rest.takeWhile Char.isDigit
    | _ => []
  let number := whole ++ fraction
  let units := ['K', 'M', 'G', 'T', 'P', 'E', 'Z', 'Y']
  let rank : Int :=
    if number.all fun c ↦ c == '0' || c == '.' then 0
    else
      match body.drop number.length with
      | 'k' :: _ => 1
      | c :: _ => ((units.idxOf? c).elim 0 (· + 1) : Nat)
      | [] => 0
  if isNegative then -rank else rank

/-- The number of a month, from the first letters of its name. -/
def monthRank (text : Octets) : Nat :=
  let name := ((text.dropWhile SortKey.isBlank).take 3).map Char.toUpper
  let months := ["JAN", "FEB", "MAR", "APR", "MAY", "JUN", "JUL", "AUG", "SEP", "OCT", "NOV",
    "DEC"]
  ((months.findIdx? fun month ↦ month.toList == name).map (· + 1)).getD 0

/-- The rank of what a text has in the place of a number: first what is none, then what is
undefined, then the numbers between the infinite ones. -/
def brokenRank : Option Decimal → Nat
  | none => 0
  | some .undefined => 1
  | some (.infinite true) => 2
  | some (.ratio _ _ _) => 3
  | some (.infinite false) => 4

/-- The order of numbers that need not be whole. -/
def brokenOrder (first second : Option Decimal) : Ordering :=
  (compare (brokenRank first) (brokenRank second)).then <|
    match first, second with
    | some (.ratio isNegative above below), some (.ratio isNegative' above' below') =>
      let signed (isNegative : Bool) (value : Nat) : Int := if isNegative then -value else value
      compare (signed isNegative above * below') (signed isNegative' above' * below)
    | _, _ => .eq

/-- The order that letters stand for, without regard to which way round. -/
def orderOf (letters : List Char) (first second : Octets) : Ordering :=
  if letters.contains 'n' then Fixed.order (leadingNumber first) (leadingNumber second)
  else if letters.contains 'g' then
    brokenOrder ((Decimal.leading? first).map (·.1)) ((Decimal.leading? second).map (·.1))
  else if letters.contains 'h' then
    (compare (unitRank first) (unitRank second)).then
      (Fixed.order (leadingNumber first) (leadingNumber second))
  else if letters.contains 'M' then compare (monthRank first) (monthRank second)
  else
    let shown (text : Octets) : Octets :=
      let text :=
        if letters.contains 'd' then text.filter fun c ↦ c.isAlphanum || SortKey.isBlank c
        else if letters.contains 'i' then text.filter Quoting.isPrintable
        else text
      if letters.contains 'f' then text.map Char.toUpper else text
    if letters.contains 'V' then Version.order (shown first) (shown second)
    else compare (shown first) (shown second)

/-! ### Orders -/

/-- How lines are put in order. -/
structure SortOrder where
  keys : List SortKey
  separator : Option Char
  /-- Lines that are alike in their keys come the other way round. -/
  isReversed : Bool
  /-- Lines that are alike in their keys stay as they were, if there are keys. -/
  isStable : Bool
  deriving Repr

/-- A line with the parts of it that are compared. -/
structure SortLine where
  text : Octets
  parts : List Octets

namespace SortOrder

/-- A line with the parts that the keys are about. -/
def line (order : SortOrder) (text : Octets) : SortLine :=
  ⟨text, order.keys.map fun key ↦ key.part order.separator text⟩

/-- The order of lines by their keys. -/
def keyOrder (order : SortOrder) (first second : SortLine) : Ordering :=
  (order.keys.zip (first.parts.zip second.parts)).foldl (fun found (key, one, two) ↦
    match found with
    | .eq =>
      let found := orderOf key.letters one two
      if key.letters.contains 'r' then found.swap else found
    | found => found) .eq

/-- The order of lines. -/
def lineOrder (order : SortOrder) (first second : SortLine) : Ordering :=
  match order.keyOrder first second with
  | .eq =>
    if order.isStable && !order.keys.isEmpty then .eq
    else
      let found := compare first.text second.text
      if order.isReversed then found.swap else found
  | found => found

/-- Takes the first of the least lines of several lists again and again; `left` bounds how often. -/
def merge (order : SortOrder) : (left : Nat) → List (List SortLine) → List SortLine
  | 0, _ => []
  | left + 1, lists =>
    let heads := lists.zipIdx.filterMap fun (lines, index) ↦
      lines.head?.map fun line ↦ (line, index)
    let least := heads.foldl (fun (best : Option (SortLine × Nat)) next ↦
      match best with
      | some best => if order.lineOrder next.1 best.1 == .lt then some next else some best
      | none => some next) none
    match least with
    | none => []
    | some (line, index) =>
      line :: merge order left (lists.modify index (·.drop 1))

/-- The first lines of those that are alike and follow each other. -/
def unique (order : SortOrder) : List SortLine → List SortLine
  | [] => []
  | first :: rest =>
    let (kept, _) := rest.foldl (fun (kept, last) next ↦
      if order.lineOrder last next == .eq then (kept, last) else (next :: kept, next))
      ([first], first)
    kept.reverse

end SortOrder

/-- The form of the options of `sort`. -/
def sortForm : OptionForm where
  flags := SortKey.kinds ++ ['u', 'c', 'C', 's', 'm', 'z', '#']
  valued := ['k', 't', 'o', 'S', 'T', '!', '%', '@', '~']
  long := [("ignore-leading-blanks", 'b'), ("check", '~'), ("compress-program", '!'),
    ("debug", '#'), ("dictionary-order", 'd'), ("ignore-case", 'f'), ("files0-from", '@'),
    ("general-numeric-sort", 'g'), ("ignore-nonprinting", 'i'), ("key", 'k'), ("merge", 'm'),
    ("month-sort", 'M'), ("numeric-sort", 'n'), ("human-numeric-sort", 'h'),
    ("version-sort", 'V'), ("random-sort", 'R'), ("random-source", '!'), ("sort", '%'),
    ("output", 'o'), ("reverse", 'r'), ("stable", 's'), ("batch-size", '!'),
    ("buffer-size", 'S'), ("field-separator", 't'), ("temporary-directory", 'T'),
    ("unique", 'u'), ("zero-terminated", 'z'), ("parallel", '!')]
  stopsEarly := false

namespace Sorting

/-- The ways to compare that have a name. -/
def ways : List (String × Char) :=
  [("general-numeric", 'g'), ("human-numeric", 'h'), ("month", 'M'), ("numeric", 'n'),
    ("random", 'R'), ("version", 'V')]

/-- The place after a plus sign that counts from zero. -/
def oldStart? : Octets → Option (LinePlace × List Char)
  | '+' :: text => SortKey.oldPlace? text
  | _ => none

/-- The place after a hyphen that counts from zero. -/
def oldFinish? : Octets → Option (LinePlace × List Char)
  | '-' :: c :: text => if c.isDigit then SortKey.oldPlace? (c :: text) else none
  | _ => none

/-- The keys that are given by places that count from zero, and the other arguments; `start` is the
place where a key begins. -/
def withOldKeys : (start : Option (LinePlace × List Char)) → List Octets →
    List SortKey × List Octets
  | start, [] => (start.toList.map fun start ↦ SortKey.ofOldPlaces start none, [])
  | start, word :: rest =>
    match start, oldFinish? word with
    | some start, some finish =>
      let (keys, others) := withOldKeys none rest
      (SortKey.ofOldPlaces start (some finish) :: keys, others)
    | start, _ =>
      let before := start.toList.map fun start ↦ SortKey.ofOldPlaces start none
      if word = ['-', '-'] then (before, word :: rest)
      else
        let next := oldStart? word
        let (keys, others) := withOldKeys next rest
        (before ++ keys, if next.isSome then others else word :: others)

/-- The ways to compare that exclude each other among letters, as they are named in a message. -/
def clash? (letters : List Char) : Option Octets :=
  let has := letters.contains
  let exclusive := [has 'n', has 'g', has 'h', has 'M', has 'V' || has 'R' || has 'd' || has 'i']
  if exclusive.countP id > 1 then
    let hidden := if has 'd' then ['i', 'r'] else ['r']
    some (['d', 'f', 'g', 'h', 'i', 'M', 'n', 'R', 'V'].filter fun letter ↦
      has letter && !hidden.contains letter)
  else none

/-- The letters for how lines are compared, of options for all keys. -/
def generalLetters (options : Options) : List Char :=
  let given := (SortKey.kinds.filter (· != 'b')).filter options.has
  given ++ (options.values '%').filterMap fun name ↦ ways.lookup (String.ofList name)

/-- The keys with what holds for all of them. -/
def keysOf (options : Options) (keys : List SortKey) : List SortKey :=
  let letters := generalLetters options
  let skips := options.has 'b'
  let general : SortKey := { SortKey.whole with letters, skipsBefore := skips, skipsAfter := skips }
  if keys.isEmpty then
    if letters.any (· != 'r') || skips then [general] else []
  else keys.map fun key ↦
    if key.isOwn then key else { key with letters, skipsBefore := skips, skipsAfter := skips }

/-- The separator that options give, or what is wrong with it. -/
def separatorOf (options : Options) : Except Octets (Option Char) := do
  let marks ← (options.values 't').mapM fun text ↦
    match text with
    | [] => throw "empty tab".toList
    | [c] => pure c
    | ['\\', '0'] => pure '\x00'
    | text => throw ("multi-character tab ".toList ++ Quoting.plain text)
  match (marks : List Char).eraseDups with
  | [] => return none
  | [mark] => return some mark
  | _ => throw "incompatible tabs".toList

/-- The lines of a text. -/
def linesOf (ending : Char) (text : Octets) : List Octets :=
  let (lines, last) := partsOf (· == ending) text
  if last.isEmpty then lines else lines ++ [last]

/-- Tells whether lines are in order. -/
def check (task : Task) (order : SortOrder) (isUnique isQuiet : Bool) (source : Octets)
    (lines : List SortLine) : Effect :=
  let reads := Task.isInput source
  let wrong? := (lines.zip (lines.drop 1)).findIdx? fun (first, second) ↦
    let found := order.lineOrder first second
    found == .gt || (isUnique && found == .eq)
  match wrong? with
  | none => task.finishAll 0 [] reads
  | some index =>
    let text := source ++ ':' :: Number.digits 10 (index + 2) ++ ": disorder: ".toList ++
      ((lines[index + 1]?).map (·.text)).getD []
    task.finishAll 1 (if isQuiet then [] else [(2, task.message text)]) reads

/-- Puts the lines of sources in order. -/
def run (task : Task) (options : Options) (order : SortOrder) (sources : List Octets) : Effect :=
  let isUnique := options.has 'u'
  let ending := if options.has 'z' then '\x00' else '\n'
  let failures := sources.filterMap fun source ↦
    match task.contents source with
    | .error .isDirectory => some ("read failed: ".toList ++ Quoting.shellIfNeeded source ++
        ": Is a directory".toList)
    | .error error => some ("cannot read: ".toList ++ Quoting.shellIfNeeded source ++
        (": " ++ error.reason).toList)
    | .ok _ => none
  match failures with
  | failure :: _ => task.complain 2 failure
  | [] =>
    let texts := (task.allContents sources).1.map (·.2)
    let lists := texts.map fun text ↦ (linesOf ending text).map order.line
    let reads := sources.any Task.isInput
    let checks := options.values '~' ++ (if options.has 'C' then ["quiet".toList] else [])
    if options.has 'c' || !checks.isEmpty then
      let isQuiet := checks.any fun word ↦
        !word.isEmpty && (word.isPrefixOf "quiet".toList || word.isPrefixOf "silent".toList)
      check task order isUnique isQuiet (sources.headD ['-']) lists.flatten
    else
      let sorted :=
        if options.has 'm' then
          order.merge ((lists.map List.length).foldl (· + ·) 1) lists
        else lists.flatten.mergeSort fun first second ↦ order.lineOrder first second != .gt
      let shown := if isUnique then order.unique sorted else sorted
      let output := shown.flatMap fun line ↦ line.text ++ [ending]
      match options.value? 'o' with
      | some target =>
        match task.store task.tree target output with
        | .ok tree => { task.finishAll 0 [] reads with tree := some tree }
        | .error error =>
          task.complain 2 ("open failed: ".toList ++ Quoting.shellIfNeeded target ++
            (": " ++ error.reason).toList)
      | none => task.finishAll 0 [(1, output)] reads

/-- What is sorted: the operands, or the files that another one names. -/
def sourcesOf (task : Task) (options : Options) : Except Octets (List Octets) :=
  match options.value? '@', options.operands with
  | none, operands => .ok (Task.operandsOrInput operands)
  | some _, operand :: _ =>
    .error ("extra operand ".toList ++ Quoting.shell operand ++
      "\nfile operands cannot be combined with --files0-from".toList)
  | some list, [] =>
    match task.contents list with
    | .error error => .error ("open failed: ".toList ++ Quoting.shellIfNeeded list ++
        (": " ++ error.reason).toList)
    | .ok text =>
      let names := linesOf '\x00' text
      if names.isEmpty then .error ("no input from ".toList ++ Quoting.shell list) else .ok names

end Sorting

/-- Puts lines in order. -/
def sort : Utility where
  name := "sort"
  run task :=
    let (oldKeys, arguments) := Sorting.withOldKeys none task.arguments
    let arguments := arguments.map fun word ↦
      if word = "--check".toList then "--check=diagnose-first".toList else word
    match Options.parse sortForm arguments with
    | .error text => task.misuse 2 text
    | .ok options =>
      let wrongWay? := (options.values '%').find? fun name ↦
        (Sorting.ways.lookup (String.ofList name)).isNone
      let asks := options.has 'c' || options.has 'C' || options.has '~'
      let letter := if options.has 'C' then 'C' else 'c'
      match wrongWay?, (options.values 'k').mapM SortKey.read, Sorting.separatorOf options with
      | some name, _, _ =>
        let shown := Sorting.ways.map fun way ↦ "  - '" ++ way.1 ++ "'\n"
        task.misuse 1 ("invalid argument " ++ Octets.toText (Quoting.plain name) ++
          " for '--sort'\nValid arguments are:\n" ++
          String.ofList (String.join shown).toList.dropLast)
      | none, .error fault, _ => task.complain 2 fault.message
      | none, .ok _, .error message => task.complain 2 message
      | none, .ok keys, .ok separator =>
        let keys := Sorting.keysOf options (keys ++ oldKeys)
        let isUnique := options.has 'u'
        let order : SortOrder :=
          { keys, separator, isReversed := options.has 'r'
            isStable := options.has 's' || isUnique }
        match keys.findSome? fun key ↦ Sorting.clash? key.letters with
        | some clash =>
          task.complain 2 ("options '-".toList ++ clash ++ "' are incompatible".toList)
        | none =>
          match Sorting.sourcesOf task options with
          | .error message => task.complain 2 message
          | .ok sources =>
            if asks && sources.length > 1 then
              task.complain 2 ("extra operand ".toList ++ Quoting.shell (sources.getD 1 []) ++
                " not allowed with -".toList ++ [letter])
            else if asks && options.has 'o' then
              task.complain 2 ("options '-".toList ++ letter :: "o' are incompatible".toList)
            else Sorting.run task options order sources

end Scaffold.Shell.Utility
