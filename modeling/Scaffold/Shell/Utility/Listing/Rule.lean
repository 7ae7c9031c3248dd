import Scaffold.Shell.Quoting
import Scaffold.Shell.Utility.Amount
import Scaffold.Shell.Utility.Basic

/-!
# Rules of lists

What the options and settings of `ls` ask for (`ListRule`): which files are shown, in which order,
what of them, and how they are set out. Of options that exclude each other the last one counts. The
size of a file is told in blocks of a number of octets, or as a short number with the letter of a
power behind it (`SizeUnit.text`). What is left over counts as a whole block.
-/

set_option autoImplicit false

namespace Scaffold.Shell

open Text (Octets)

/-- How sizes of files are told. -/
inductive SizeUnit
  /-- In blocks of so many octets, with a text behind their number. -/
  | blocks (size : Nat) (mark : Octets)
  /-- By the power of a base that leaves a short number. -/
  | scaled (base : Nat)
  deriving Repr

/-- What keeps a text from being a unit. -/
inductive UnitFault
  | malformed
  | wrongLetter
  | tooLarge
  deriving DecidableEq, Repr

namespace SizeUnit

/-- The letter for the first power of a base, and those for the others. -/
def letters (base : Nat) : List Char :=
  (if base = 1000 then 'k' else 'K') :: ['M', 'G', 'T', 'P', 'E', 'Z', 'Y']

/-- A size by the power of a base, from the first of some powers on; `scale` is the power. -/
def scaledText (base size : Nat) : List Char → (scale : Nat) → Octets
  | [], scale => Number.digits 10 ((size + scale - 1) / scale)
  | letter :: letters, scale =>
    let tenths := (size * 10 + scale - 1) / scale
    let whole := (size + scale - 1) / scale
    if size < scale * base then
      if tenths < 100 then
        Number.digits 10 (tenths / 10) ++ '.' :: Number.digits 10 (tenths % 10) ++ [letter]
      else if whole < base then Number.digits 10 whole ++ [letter]
      else "1.0".toList ++ letters.take 1
    else scaledText base size letters (scale * base)

/-- A size in octets as a unit tells it. -/
def text (unit : SizeUnit) (octets : Nat) : Octets :=
  match unit with
  | blocks size mark => Number.digits 10 ((octets + size - 1) / size) ++ mark
  | scaled base =>
    if octets < base then Number.digits 10 octets
    else scaledText base octets (letters base) base

/-- The form of sizes of blocks. -/
def form : AmountForm :=
  ⟨false, "eEgGkKmMpPtTyYzZ0".toList, 0, AmountForm.greatestWord, true⟩

/-- The text behind numbers of blocks whose size is told by a letter alone. -/
def markOf (spec : Octets) : Octets :=
  let isBinary := spec.getLast? != some 'B' || spec.dropLast.getLast? == some 'i'
  let letter := (spec.headD 'K').toUpper
  let shown := if letter = 'K' ∧ !isBinary then 'k' else letter
  shown :: if spec.getLast? != some 'B' then [] else if isBinary then ['i', 'B'] else ['B']

/-- The unit that a text asks for. -/
def read (spec : Octets) : Except UnitFault SizeUnit :=
  let spec := if spec.head? = some '\x27' then spec.drop 1 else spec
  let names := [("human-readable", scaled 1024), ("si", scaled 1000)]
  match names.find? fun entry ↦ !spec.isEmpty && spec.isPrefixOf entry.1.toList with
  | some (_, unit) => .ok unit
  | none =>
    match form.read spec with
    | .ok 0 => .error .malformed
    | .ok size =>
      .ok (blocks size.toNat (if spec.any Char.isDigit then [] else markOf spec))
    | .error .malformed =>
      .error (if spec.head?.any Char.isDigit then .wrongLetter else .malformed)
    | .error _ => .error .tooLarge

end SizeUnit

end Scaffold.Shell

namespace Scaffold.Shell.Utility

open Text (Octets)

/-- How the files of a list are set out. -/
inductive ListLayout
  | lines
  | columns
  | rows
  | commas
  /-- One on a line with what is known about it. -/
  | details
  deriving DecidableEq, Repr

/-- What files are put in order by. -/
inductive ListOrder
  | name
  | none
  | time
  | size
  | ending
  | version
  | width
  deriving DecidableEq, Repr

/-- Which files a directory hides. -/
inductive Hiding
  | hidden
  /-- The directory itself, and the one that it is in. -/
  | own
  | none
  deriving DecidableEq, Repr

/-- Which kinds of files get a mark behind their names. -/
inductive NameMarks
  | none
  | directories
  | kinds
  /-- All kinds, and the files that can be run. -/
  | all
  deriving DecidableEq, Repr

/-- Which links are followed. -/
inductive Following
  | never
  /-- Operands that lead to directories. -/
  | directories
  | operands
  | always
  deriving DecidableEq, Repr

/-- What is wrong with options; where to read more is told too if it is `hinted`, and then there is
a status to end with. -/
inductive ListFault
  | hinted (status : Nat) (text : String)
  | plain (text : Octets)

/-- What a list is asked for. -/
structure ListRule where
  /-- How the files are set out if no option says so. -/
  usual : ListLayout
  given : Option ListLayout
  ordered : Option ListOrder
  isReversed : Bool
  directoriesFirst : Bool
  omitted : Hiding
  /-- Patterns of names that are never shown, and of those that are hidden like others. -/
  ignored : List Octets
  hidden : List Octets
  marks : NameMarks
  style : Option Quoting.Style
  hidesControl : Bool
  followed : Option Following
  isDeep : Bool
  /-- Directories are shown themselves. -/
  showsDirectories : Bool
  showsNumber : Bool
  showsBlocks : Bool
  showsContext : Bool
  showsOwner : Bool
  showsGroup : Bool
  showsAuthor : Bool
  isNumeric : Bool
  /-- A time other than that of the last change was asked for. -/
  hasOwnTime : Bool
  timeStyle : Option Octets
  blockUnit : Option SizeUnit
  sizeUnit : Option SizeUnit
  hasKilobytes : Bool
  width : Option Nat
  tab : Option Nat
  ending : Char

namespace ListRule

/-- What is asked for where no option says otherwise. -/
def start (usual : ListLayout) (style : Option Quoting.Style) : ListRule where
  usual := usual
  given := none
  ordered := none
  isReversed := false
  directoriesFirst := false
  omitted := .hidden
  ignored := []
  hidden := []
  marks := .none
  style := style
  hidesControl := false
  followed := none
  isDeep := false
  showsDirectories := false
  showsNumber := false
  showsBlocks := false
  showsContext := false
  showsOwner := true
  showsGroup := true
  showsAuthor := false
  isNumeric := false
  hasOwnTime := false
  timeStyle := none
  blockUnit := none
  sizeUnit := none
  hasKilobytes := false
  width := none
  tab := none
  ending := '\n'

/-- The words for layouts. -/
def layoutWords : List (String × ListLayout) :=
  [("verbose", .details), ("long", .details), ("commas", .commas), ("horizontal", .rows),
    ("across", .rows), ("vertical", .columns), ("single-column", .lines)]

/-- The words for orders. -/
def orderWords : List (String × ListOrder) :=
  [("none", .none), ("time", .time), ("size", .size), ("extension", .ending),
    ("version", .version), ("width", .width)]

/-- The words for times. -/
def timeWords : List (String × Nat) :=
  [("atime", 0), ("access", 0), ("use", 0), ("ctime", 1), ("status", 1), ("mtime", 2),
    ("modification", 2), ("birth", 3), ("creation", 3)]

/-- The words for marks. -/
def markWords : List (String × NameMarks) :=
  [("none", .none), ("slash", .directories), ("file-type", .kinds), ("classify", .all)]

/-- The words for when something is done: always, never, or for a terminal. -/
def whenWords : List (String × Option Bool) :=
  [("always", some true), ("yes", some true), ("force", some true), ("never", some false),
    ("no", some false), ("none", some false), ("auto", none), ("tty", none), ("if-tty", none)]

/-- The form of the options of `ls`. -/
def form : OptionForm where
  flags := "abcdfghiklmnopqrstuvxABCDFGHLNQRSUXZ1".toList
  valued := ['w', 'I', 'T', '\x02', '\x03', '\x04', '\x05', '\x06', '\x07', '\x08', '\x11']
  long := [("all", 'a'), ("escape", 'b'), ("directory", 'd'), ("dired", 'D'),
    ("full-time", '\x01'), ("group-directories-first", '\x17'), ("human-readable", 'h'),
    ("inode", 'i'), ("kibibytes", 'k'), ("numeric-uid-gid", 'n'), ("no-group", 'G'),
    ("hide-control-chars", 'q'), ("reverse", 'r'), ("size", 's'), ("width", 'w'),
    ("almost-all", 'A'), ("ignore-backups", 'B'), ("classify", 'F'), ("file-type", '\x13'),
    ("si", '\x14'), ("dereference-command-line", 'H'),
    ("dereference-command-line-symlink-to-dir", '\x15'), ("hide", '\x02'), ("ignore", 'I'),
    ("indicator-style", '\x03'), ("dereference", 'L'), ("literal", 'N'), ("quote-name", 'Q'),
    ("quoting-style", '\x04'), ("recursive", 'R'), ("format", '\x05'),
    ("show-control-chars", '\x16'), ("sort", '\x06'), ("tabsize", 'T'), ("time", '\x07'),
    ("time-style", '\x08'), ("zero", '\x0e'), ("color", '\x0f'), ("hyperlink", '\x10'),
    ("block-size", '\x11'), ("context", 'Z'), ("author", '\x12')]
  stopsEarly := false

/-- Reads a word of a choice. -/
def chosen {α : Type} [DecidableEq α] (what : String) (choices : List (String × α))
    (word : Octets) : Except ListFault α :=
  match choice what choices word with
  | .ok value => .ok value
  | .error text => .error (.hinted 1 text)

/-- Whole numbers in any base. -/
def counts : AmountForm :=
  ⟨false, [], 0, AmountForm.greatestWord, true⟩

/-- The width that a text asks for, or none if it is no number; one that is too large is no
bound. -/
def widthOf? (text : Octets) : Option Nat :=
  match counts.read text with
  | .ok value => some (if value ≤ Number.greatest then value.toNat else 0)
  | .error .malformed => none
  | .error _ => some 0

/-- The unit that a text asks for. -/
def unitOf (text : Octets) : Except ListFault SizeUnit :=
  let shown := "--block-size argument ".toList ++ '\x27' :: text ++ ['\x27']
  match SizeUnit.read text with
  | .ok unit => .ok unit
  | .error .malformed => .error (.plain ("invalid ".toList ++ shown))
  | .error .wrongLetter => .error (.plain ("invalid suffix in ".toList ++ shown))
  | .error .tooLarge => .error (.plain (shown ++ " too large".toList))

/-- The rule with a way to set the files out; files with details stay so. -/
def inLines (rule : ListRule) : ListRule :=
  if rule.given = some .details then rule else { rule with given := some .lines }

/-- The rule with a unit for all sizes. -/
def withUnit (rule : ListRule) (unit : SizeUnit) : ListRule :=
  { rule with blockUnit := some unit, sizeUnit := some unit }

/-- Takes an option. -/
def take (rule : ListRule) (option : Char × Octets) : Except ListFault ListRule := do
  let (letter, text) := option
  match letter with
  | '1' => return rule.inLines
  | 'a' => return { rule with omitted := .none }
  | 'A' => return { rule with omitted := .own }
  | 'b' => return { rule with style := some .escaped }
  | 'B' => return { rule with ignored := ".*~".toList :: "*~".toList :: rule.ignored }
  | 'c' | 'u' => return { rule with hasOwnTime := true }
  | 'C' => return { rule with given := some .columns }
  | 'd' => return { rule with showsDirectories := true }
  | 'f' =>
    return { rule with
      omitted := .none, ordered := some .none, showsBlocks := false
      given := if rule.given = some .details then none else rule.given }
  | 'F' =>
    let isWanted ← if text.isEmpty then pure (some true) else chosen "--classify" whenWords text
    return if isWanted = some true then { rule with marks := .all } else rule
  | 'g' => return { rule with given := some .details, showsOwner := false }
  | 'G' => return { rule with showsGroup := false }
  | 'h' => return rule.withUnit (.scaled 1024)
  | 'H' => return { rule with followed := some .operands }
  | 'i' => return { rule with showsNumber := true }
  | 'I' => return { rule with ignored := text :: rule.ignored }
  | 'k' => return { rule with hasKilobytes := true }
  | 'l' => return { rule with given := some .details }
  | 'L' => return { rule with followed := some .always }
  | 'm' => return { rule with given := some .commas }
  | 'n' => return { rule with given := some .details, isNumeric := true }
  | 'N' => return { rule with style := some .literal }
  | 'o' => return { rule with given := some .details, showsGroup := false }
  | 'p' => return { rule with marks := .directories }
  | 'q' => return { rule with hidesControl := true }
  | 'Q' => return { rule with style := some (.quoted '\x22') }
  | 'r' => return { rule with isReversed := true }
  | 'R' => return { rule with isDeep := true }
  | 's' => return { rule with showsBlocks := true }
  | 'S' => return { rule with ordered := some .size }
  | 't' => return { rule with ordered := some .time }
  | 'T' =>
    match counts.read text with
    | .ok value => return { rule with tab := some value.toNat }
    | .error fault =>
      throw (.plain ("invalid tab size: ".toList ++ Quoting.plain text ++ fault.addition.toList))
  | 'U' => return { rule with ordered := some .none }
  | 'v' => return { rule with ordered := some .version }
  | 'w' =>
    match widthOf? text with
    | some width => return { rule with width := some width }
    | none => throw (.plain ("invalid line width: ".toList ++ Quoting.plain text))
  | 'x' => return { rule with given := some .rows }
  | 'X' => return { rule with ordered := some .ending }
  | 'Z' => return { rule with showsContext := true }
  | '\x01' => return { rule with given := some .details, timeStyle := some "full-iso".toList }
  | '\x02' => return { rule with hidden := text :: rule.hidden }
  | '\x03' => return { rule with marks := ← chosen "--indicator-style" markWords text }
  | '\x04' =>
    return { rule with style := some (← chosen "--quoting-style" Quoting.Style.words text) }
  | '\x05' => return { rule with given := some (← chosen "--format" layoutWords text) }
  | '\x06' => return { rule with ordered := some (← chosen "--sort" orderWords text) }
  | '\x07' =>
    let _ ← chosen "--time" timeWords text
    return { rule with hasOwnTime := true }
  | '\x08' => return { rule with timeStyle := some text }
  | '\x0e' =>
    return { rule.inLines with ending := '\x00', hidesControl := false, style := some .literal }
  | '\x0f' =>
    if text.isEmpty then return rule
    else
      let _ ← chosen "--color" whenWords text
      return rule
  | '\x10' =>
    if text.isEmpty then return rule
    else
      let _ ← chosen "--hyperlink" whenWords text
      return rule
  | '\x11' => return rule.withUnit (← unitOf text)
  | '\x12' => return { rule with showsAuthor := true }
  | '\x13' => return { rule with marks := .kinds }
  | '\x14' => return rule.withUnit (.scaled 1000)
  | '\x15' => return { rule with followed := some .directories }
  | '\x16' => return { rule with hidesControl := false }
  | '\x17' => return { rule with directoriesFirst := true }
  | _ => return rule

/-- How the files are set out. -/
def layout (rule : ListRule) : ListLayout :=
  rule.given.getD rule.usual

/-- What the files are put in order by. -/
def order (rule : ListRule) : ListOrder :=
  rule.ordered.getD (if rule.hasOwnTime ∧ rule.layout ≠ .details then .time else .name)

/-- Which links are followed. -/
def following (rule : ListRule) : Following :=
  rule.followed.getD
    (if rule.showsDirectories ∨ rule.marks = .all ∨ rule.layout = .details then .never
      else .directories)

/-- The style of names. -/
def quoting (rule : ListRule) : Quoting.Style :=
  rule.style.getD .literal

/-- The forms of times: of one long ago or to come, and of one of the last half year; none if the
style of times is unknown. -/
def timeForms? (rule : ListRule) : Except ListFault (Octets × Octets) :=
  let style := rule.timeStyle.getD "locale".toList
  match style with
  | '+' :: form =>
    let first := form.takeWhile (· != '\n')
    let second := form.drop (first.length + 1)
    if second.contains '\n' then
      .error (.plain ("invalid time style format ".toList ++ Quoting.plain form))
    else .ok (first, if first.length < form.length then second else first)
  | style =>
    let usual := ("%b %e  %Y".toList, "%b %e %H:%M".toList)
    let both := fun (form : String) ↦ (form.toList, form.toList)
    let forms := [("full-iso", both "%Y-%m-%d %H:%M:%S.%N %z"), ("long-iso", both "%Y-%m-%d %H:%M"),
      ("iso", ("%Y-%m-%d ".toList, "%m-%d %H:%M".toList)), ("locale", usual)]
    if "posix-".toList.isPrefixOf style then .ok usual
    else
      match forms.lookup (Octets.toText style),
        forms.filter fun entry ↦ style.isPrefixOf entry.1.toList with
      | some forms, _ => .ok forms
      | none, [(_, forms)] => .ok forms
      | none, candidates =>
        let what := if candidates.isEmpty then "invalid" else "ambiguous"
        .error <| (.hinted 2 ·) <| what ++ " argument " ++ Octets.toText (Quoting.plain style) ++
          " for 'time style'\nValid arguments are:\n" ++
          String.join (forms.map fun entry ↦ "  - [posix-]" ++ entry.1 ++ "\n") ++
          "  - +FORMAT (e.g., +%H:%M) for a 'date'-style format"

/-- The rule with what settings ask for where no option does, and warnings about settings that ask
for nothing. -/
def withSettings (rule : ListRule) (settings : List (Octets × Octets)) :
    ListRule × List Octets :=
  let setting := fun (name : String) ↦ (settings.lookup name.toList).filter (!·.isEmpty)
  let needsWidth := [ListLayout.columns, .rows, .commas].contains rule.layout
  let (width, warnings) : Option Nat × List Octets :=
    match rule.width, setting "COLUMNS" with
    | none, some text =>
      if !needsWidth then (none, [])
      else
        match widthOf? text with
        | some width => (some width, [])
        | none =>
          (none, ["ignoring invalid width in environment variable COLUMNS: ".toList ++
            Quoting.plain text])
    | width, _ => (width, [])
  let (style, more) : Option Quoting.Style × List Octets :=
    match rule.style, setting "QUOTING_STYLE" with
    | none, some text =>
      match (choice "" Quoting.Style.words text).toOption with
      | some style => (some style, [])
      | none =>
        (none, ["ignoring invalid value of environment variable QUOTING_STYLE: ".toList ++
          Quoting.plain text])
    | style, _ => (style, [])
  let own := (setting "LS_BLOCK_SIZE").or (setting "BLOCK_SIZE")
  let unit := ((own.or (setting "BLOCKSIZE")).bind fun text ↦
    (SizeUnit.read text).toOption).getD (.blocks 1024 [])
  let blockUnit := rule.blockUnit.getD (if rule.hasKilobytes then .blocks 1024 [] else unit)
  let sizeUnit := rule.sizeUnit.getD (if own.isSome then unit else .blocks 1 [])
  ({ rule with
      width, style, blockUnit := some blockUnit, sizeUnit := some sizeUnit
      timeStyle := rule.timeStyle.or (settings.lookup "TIME_STYLE".toList)
      tab := rule.tab.or ((setting "TABSIZE").bind widthOf?) }, warnings ++ more)

/-- The size of files or blocks as it is told. -/
def blockText (rule : ListRule) (octets : Nat) : Octets :=
  (rule.blockUnit.getD (.blocks 1024 [])).text octets

/-- The size of a file as it is told. -/
def sizeText (rule : ListRule) (octets : Nat) : Octets :=
  (rule.sizeUnit.getD (.blocks 1 [])).text octets

/-- More than the names and kinds of files has to be known. -/
def needsRecords (rule : ListRule) : Bool :=
  rule.order = .time || rule.order = .size || rule.layout = .details || rule.showsContext ||
    rule.showsBlocks ||
    (rule.following = .always && (rule.showsNumber || rule.isDeep || rule.marks != .none ||
      rule.directoriesFirst))

/-- The width of lines; zero is no bound. -/
def lineWidth (rule : ListRule) : Nat :=
  rule.width.getD 80

/-- A name as it is shown; more octets than usual may need an escape. -/
def nameText (rule : ListRule) (more : Char → Bool) (name : Octets) : Octets :=
  let shown := rule.quoting.text more name
  let isOpen := rule.quoting = .literal || rule.quoting = .shell false ||
    rule.quoting = .shellQuoted false
  if rule.hidesControl && isOpen then
    shown.map fun c ↦ if Quoting.isPrintable c then c else '?'
  else shown

/-- The octets of the name of a file that need an escape besides the usual ones. -/
def fileMarks (rule : ListRule) (c : Char) : Bool :=
  (rule.quoting = .escaped && c == ' ') ||
    match rule.marks with
    | .kinds => ['*', '=', '>', '@', '|'].contains c
    | .all => ['=', '>', '@', '|'].contains c
    | .none | .directories => false

/-- Names without quotes are put where those with quotes have their first letters. -/
def alignsQuotes (rule : ListRule) : Bool :=
  (rule.layout = .details ||
    ((rule.layout = .columns || rule.layout = .rows) && rule.lineWidth ≠ 0)) &&
  (rule.quoting = .shell false || rule.quoting = .shell true || rule.quoting = .quotedIfNeeded)

end ListRule

end Scaffold.Shell.Utility
