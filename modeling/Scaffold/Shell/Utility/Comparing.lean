import Scaffold.Shell.Search.Dialect
import Scaffold.Shell.Utility.Amount
import Scaffold.Shell.Utility.Basic
import Scaffold.Shell.Utility.Comparing.Style
import Scaffold.Shell.Utility.Locating

/-!
# Comparing files

`cmp` compares files octet by octet, and `diff` line by line. What `diff` holds for equal hangs on
its options (`DiffRule.reduced`), and so does the style in which differences are shown
(`DiffRule.shown`). Directories are compared file by file.
-/

set_option autoImplicit false

namespace Scaffold.Shell

open Text (Octets)

/-- Complains about the arguments, each line with the name of the utility in front. -/
def Task.misuseTwice (task : Task) (text : Octets) : Effect :=
  task.finishAll 2 [(2, task.message text ++
    task.message ("Try '" ++ task.name ++ " --help' for more information.").toList)] false

namespace Utility

/-! ### Octet by octet -/

/-- An octet as it is shown beside its number: with marks for those that cannot be printed. -/
def markedOctet (c : Char) : Octets :=
  let code := c.toNat
  let (front, low) := if code < 128 then ([], code) else (['M', '-'], code - 128)
  front ++
    if low < 32 then ['^', Char.ofNat (low + 64)]
    else if low = 127 then ['^', '?']
    else [Char.ofNat low]

/-- An octet as an octal number of three places. -/
def octalOctet (c : Char) : Octets :=
  atEnd 3 (Number.digits 8 c.toNat)

/-- How `cmp` compares. -/
structure OctetRule where
  showsAll : Bool
  showsOctets : Bool
  isSilent : Bool

/-- The differing octets of two texts with their places, of which the first is one, and how many
line ends come before each of them; at last the number of octets compared, and the line ends among
them. -/
def octetDifferences : (place ends : Nat) → Octets → Octets →
    List (Nat × Nat × Char × Char) × Nat × Nat
  | place, ends, a :: first, b :: second =>
    let ends' := if a = '\n' then ends + 1 else ends
    let (others, size, total) := octetDifferences (place + 1) ends' first second
    (if a = b then others else (place, ends, a, b) :: others, size, total)
  | place, ends, _, _ => ([], place - 1, ends)

/-- Compares two texts with names, of sizes that are known or not. -/
def compareOctets (rule : OctetRule) (limit? : Option Nat)
    (first second : Octets × Octets × Bool) : List (Nat × Octets) × Bool :=
  let cut := fun (text : Octets) ↦ limit?.elim text text.take
  let one := cut first.2.1
  let two := cut second.2.1
  let (found, size, ends) := octetDifferences 1 0 one two
  let number := Number.digits 10
  let isShort := one.length != two.length
  let name := if two.length < one.length then second.1 else first.1
  let isAtLineEnd := (one.take size).getLast? == some '\n'
  let ending : List (Nat × Octets) :=
    if !isShort || rule.isSilent then []
    else
      let text :=
        if size = 0 then " which is empty".toList
        else " after byte ".toList ++ number size ++
          if rule.showsAll then []
          else if isAtLineEnd then ", line ".toList ++ number ends
          else ", in line ".toList ++ number (ends + 1)
      [(2, "cmp: EOF on ".toList ++ name ++ text ++ ['\n'])]
  if rule.isSilent then ([], found.isEmpty && !isShort)
  else if rule.showsAll then
    let sizes := [first, second].filterMap fun (_, text, isKnown) ↦
      if isKnown then some text.length else none
    let widest := (limit?.toList ++ sizes).foldl min 9223372036854775807
    let width := (number widest).length
    let lines := found.flatMap fun (place, _, a, b) ↦
      atEnd width (number place) ++ ' ' :: octalOctet a ++
        if rule.showsOctets then
          let shown := markedOctet a
          ' ' :: shown ++ List.replicate (4 - shown.length) ' ' ++ ' ' :: octalOctet b ++
            ' ' :: markedOctet b ++ ['\n']
        else ' ' :: octalOctet b ++ ['\n']
    (ending ++ (if lines.isEmpty then [] else [(1, lines)]), found.isEmpty && !isShort)
  else
    match found with
    | (place, ends, a, b) :: _ =>
      let tail :=
        if rule.showsOctets then
          " is ".toList ++ octalOctet a ++ ' ' :: markedOctet a ++ ' ' :: octalOctet b ++ ' ' ::
            markedOctet b
        else []
      let unit := if rule.showsOctets then " differ: byte " else " differ: char "
      ([(1, first.1 ++ ' ' :: second.1 ++ unit.toList ++ number place ++ ", line ".toList ++
        number (ends + 1) ++ tail ++ ['\n'])], false)
    | [] => (ending, !isShort)

/-- The amounts that `cmp` reads. -/
def compareAmounts : AmountForm :=
  { AmountForm.counts with units := "kKMGTPEZY0".toList, readsBases := true }

/-- The octets that are left out at the start of two files, as an option gives them. -/
def skips? (text : Octets) : Option (Nat × Nat) := do
  let amount := fun (text : Octets) ↦ (compareAmounts.read text).toOption.map Int.toNat
  let first := text.takeWhile (· != ':')
  let second := text.drop (first.length + 1)
  let one ← amount first
  if first.length < text.length then return (one, ← amount second) else return (one, one)

/-- The form of the options of `cmp`. -/
def compareForm : OptionForm where
  flags := ['s', 'l', 'b']
  valued := ['n', 'i']
  long := [("silent", 's'), ("quiet", 's'), ("verbose", 'l'), ("print-bytes", 'b'),
    ("print-chars", 'b'), ("bytes", 'n'), ("ignore-initial", 'i')]
  stopsEarly := false

/-- Compares files octet by octet. -/
def cmp : Utility where
  name := "cmp"
  run task :=
    match Options.parse compareForm task.arguments with
    | .error text => task.misuseTwice text.toList
    | .ok options =>
      let given := (options.value? 'i').map skips?
      let limits := (options.values 'n').map fun text ↦ (compareAmounts.read text).toOption
      let places := (options.operands.drop 2).map fun text ↦ (text, skips? text)
      if given = some none then
        task.misuseTwice ("invalid --ignore-initial value '".toList ++
          (options.value? 'i').getD [] ++ ['\x27'])
      else if limits.any Option.isNone then
        task.misuseTwice ("invalid --bytes value '".toList ++ (options.value? 'n').getD [] ++
          ['\x27'])
      else if options.has 'l' && options.has 's' then
        task.misuseTwice "options -l and -s are incompatible".toList
      else
        match options.operands with
        | [] => task.misuseTwice "missing operand after 'cmp'".toList
        | _ :: _ :: _ :: _ :: extra :: _ =>
          task.misuseTwice ("extra operand '".toList ++ extra ++ ['\x27'])
        | first :: others =>
          match places.find? fun place ↦ place.2.isNone with
          | some (text, _) =>
            task.misuseTwice ("invalid --ignore-initial value ".toList ++ Quoting.plain text)
          | none =>
            let second := others.headD ['-']
            let skip := (given.getD none).getD (0, 0)
            let starts := places.map fun place ↦ ((place.2.getD (0, 0)).1)
            let skip := (starts.headD skip.1, (starts.drop 1).headD skip.2)
            let limit? := (limits.filterMap id).min?.map Int.toNat
            let refused := fun (name : Octets) (error : SystemError) ↦
              let text := task.message (name ++ (": " ++ error.reason).toList)
              task.finishAll 2 (if options.has 's' then [] else [(2, text)]) false
            match task.contents first, task.contents second with
            | .error error, _ => refused first error
            | _, .error error => refused second error
            | .ok one, .ok two =>
              let isKnown := fun (name : Octets) ↦ name != ['-'] || task.readsFile
              let rule : OctetRule := ⟨options.has 'l', options.has 'b', options.has 's'⟩
              let (written, isSame) := compareOctets rule limit?
                (first, one.drop skip.1, isKnown first) (second, two.drop skip.2, isKnown second)
              task.finishAll (if isSame then 0 else 1) written
                (Task.isInput first || Task.isInput second)

end Utility

/-! ### Line by line -/

/-- The styles in which differences are shown. -/
inductive DiffStyle
  | normal
  | unified
  | context
  | editor
  | letters
  | counts
  | beside
  | merged
  deriving DecidableEq, Repr

/-- Which blanks make no difference. -/
structure BlankRule where
  tabs : Bool
  trailing : Bool
  amounts : Bool
  all : Bool

/-- How files are compared line by line. -/
structure DiffRule where
  style : DiffStyle
  context : Nat
  isBrief : Bool
  tellsSame : Bool
  isRecursive : Bool
  /-- A file that is not there counts as an empty one: the first, and the second. -/
  fills : Bool × Bool
  foldsCase : Bool
  blanks : BlankRule
  ignores : Option (Octets → Bool)
  heads : Option (Octets → Bool)
  isText : Bool
  dropsReturns : Bool
  isMinimal : Bool
  labels : List Octets
  tabSize : Nat
  expandsTabs : Bool
  hasTab : Bool
  isBare : Bool
  width : Nat
  showsLeftAlone : Bool
  hidesEqual : Bool
  excluded : List Octets
  horizon : Nat
  forms : Styling.MergeForms
  /-- The options as the command line has them. -/
  written : Octets

namespace DiffRule

/-- Blanks in the place of each run of them, and none at the end. -/
def evened : Octets → Octets
  | [] => []
  | c :: rest =>
    let tail := evened rest
    if c.isWhitespace || c == '\x0b' || c == '\x0c' then
      match tail with
      | [] => []
      | ' ' :: _ => tail
      | _ => ' ' :: tail
    else c :: tail

/-- What counts of a line. -/
def reduced (rule : DiffRule) (line : Octets) : Octets :=
  let isBlank := fun (c : Char) ↦ c.isWhitespace || c == '\x0b' || c == '\x0c'
  let line := if rule.foldsCase then line.map Char.toLower else line
  if rule.blanks.all then line.filter fun c ↦ !isBlank c
  else if rule.blanks.amounts then evened line
  else
    let expands := rule.blanks.tabs && !rule.blanks.trailing
    let line := if expands then Styling.expanded rule.tabSize 0 line else line
    if rule.blanks.trailing then (line.reverse.dropWhile isBlank).reverse else line

/-- A last line without an end may equal one with an end. -/
def completes (rule : DiffRule) : Bool :=
  rule.blanks.all || rule.blanks.amounts || rule.blanks.trailing ||
    rule.style == .editor || rule.style == .letters

/-- The lines of a text. -/
def lined (rule : DiffRule) (text : Octets) : LinedText :=
  let lines := plainLines text
  let lines := if !rule.dropsReturns then lines else lines.map fun line ↦
    if line.getLast? = some '\r' then line.dropLast else line
  ⟨lines.toArray, text.isEmpty || text.getLast? == some '\n'⟩

/-- The lines of a text with a mark at a last one that has no end. -/
def keys (text : LinedText) (change : Octets → Octets) : Array Octets :=
  let lines := text.lines.map change
  if text.isComplete then lines
  else lines.modify (lines.size - 1) (· ++ ['\n'])

/-- The differences of two texts. -/
def hunks (rule : DiffRule) (old new : LinedText) : List Hunk :=
  let keyed := fun (change : Octets → Octets) (text : LinedText) ↦
    if rule.completes then text.lines.map change else keys text change
  let classes := Difference.classesOf (keyed rule.reduced old) (keyed rule.reduced new)
  let isLoose := rule.style == .editor || rule.style == .letters
  let exact := fun (text : LinedText) ↦ if isLoose then text.lines else keys text id
  let keepsEnd := !isLoose && old.isComplete != new.isComplete
  Difference.hunks (exact old) (exact new) classes rule.horizon keepsEnd rule.isMinimal

end DiffRule

/-- A file that is compared: the name by which it is shown, what it holds, and its time. -/
structure ComparedFile where
  name : Octets
  contents : Octets
  changed : Int

namespace DiffRule

/-- The line above differences that tells of a file. -/
def headLine (task : Task) (rule : DiffRule) (mark : String) (label? : Option Octets)
    (file : ComparedFile) : Octets :=
  let form :=
    if rule.style = .context then "%a %b %e %T %Y" else "%Y-%m-%d %H:%M:%S.%N %z"
  let shown := label?.getD (file.name ++ '\t' :: task.timeText form.toList file.changed)
  mark.toList ++ ' ' :: shown ++ ['\n']

/-- The differences of two texts in the style of the rule. -/
def shown (task : Task) (rule : DiffRule) (files : ComparedFile × ComparedFile)
    (styling : Styling) (hunks : List Hunk) : Octets :=
  let seen := hunks.filter fun hunk ↦ !styling.isIgnored hunk
  let groups := (styling.groups hunks).filter styling.isShown
  let heads := fun (first second : String) ↦
    rule.headLine task first rule.labels.head? files.1 ++
      rule.headLine task second (rule.labels.drop 1).head? files.2
  match rule.style with
  | .normal => seen.flatMap styling.normal
  | .unified => heads "---" "+++" ++ groups.flatMap styling.unified
  | .context => heads "***" "---" ++ groups.flatMap styling.contextual
  | .editor => seen.reverse.flatMap styling.command
  | .letters => seen.flatMap styling.letterFirst
  | .counts => seen.flatMap styling.counted
  | .beside => styling.beside 0 0 hunks
  | .merged => styling.merged rule.forms 0 0 hunks

/-- Compares two files: the status, and what is written. -/
def files (task : Task) (rule : DiffRule) (isBelow : Bool) (first second : ComparedFile) :
    Nat × List (Nat × Octets) :=
  let name := fun (index : Nat) (file : ComparedFile) ↦ (rule.labels[index]?).getD file.name
  let told := fun (front back : String) ↦
    front.toList ++ name 0 first ++ " and ".toList ++ name 1 second ++ back.toList ++ ['\n']
  let isBinary := !rule.isText &&
    ((first.contents.take 4096).contains '\x00' || (second.contents.take 4096).contains '\x00')
  let same := if rule.tellsSame then [(1, "Files ".toList ++ first.name ++ " and ".toList ++
    second.name ++ " are identical\n".toList)] else []
  if isBinary then
    if first.contents == second.contents then (0, same)
    else if rule.isBrief then (1, [(1, told "Files " " differ")])
    else (1, [(1, told "Binary files " " differ")])
  else
    let old := rule.lined first.contents
    let new := rule.lined second.contents
    let hunks := if first.contents == second.contents then [] else rule.hunks old new
    let styling : Styling :=
      { old, new, context := rule.context, tabSize := rule.tabSize
        expandsTabs := rule.expandsTabs, hasTab := rule.hasTab, isBare := rule.isBare
        ignores := rule.ignores, heads := rule.heads, width := rule.width
        showsLeftAlone := rule.showsLeftAlone, hidesEqual := rule.hidesEqual }
    let differs := hunks.any fun hunk ↦ !styling.isIgnored hunk
    let status := if differs then 1 else 0
    if rule.isBrief then
      if differs then (1, [(1, told "Files " " differ")]) else (0, same)
    else
      let showsAll := rule.style == .beside || rule.style == .merged
      let front :=
        if !isBelow || !(differs || showsAll) then []
        else "diff".toList ++ rule.written ++ ' ' :: Quoting.shellIfNeeded (name 0 first) ++ ' ' ::
          Quoting.shellIfNeeded (name 1 second) ++ ['\n']
      let isLoose := rule.style == .editor || rule.style == .letters
      let unended :=
        if !isLoose || first.name == second.name then []
        else [(name 0 first, old), (name 1 second, new)].filterMap fun (name, text) ↦
          if text.isComplete then none
          else some (2, task.message (name ++ ": No newline at end of file\n".toList))
      if differs then
        let text := front ++ rule.shown task (first, second) styling hunks
        (if unended.isEmpty then 1 else 2, (1, text) :: unended)
      else if showsAll then
        (status, (1, front ++ rule.shown task (first, second) styling hunks) :: same)
      else if unended.isEmpty then (status, same)
      else (2, unended)

/-- A file as it is found: what it is, or that it is not there. -/
structure Place where
  path : Octets
  location : Location
  found : Option Entry

/-- The contents of a place; one without a file is empty. -/
def Place.file (task : Task) (place : Place) : ComparedFile :=
  match place.found with
  | some (.file octets isExecutable) =>
    ⟨place.path, Octets.ofBytes octets,
      (task.records.of place.location (.file octets isExecutable)).changed⟩
  | _ => ⟨place.path, [], 0⟩

/-- The file below a directory. -/
def Place.below (task : Task) (place : Place) (name : String) : Place :=
  let location := place.location ++ [name]
  let found :=
    match place.found, task.tree.find? location with
    | some .directory, some (.link _) =>
      match task.tree.locate location.dropLast ⟨name⟩ true with
      | .ok target => (task.tree.find? target).or (task.tree.find? location)
      | .error _ => task.tree.find? location
    | some .directory, found => found
    | _, _ => none
  ⟨place.path ++ (if place.path.getLast? = some '/' then [] else ['/']) ++ Octets.ofText name,
    location, found⟩

/-- Compares the files of two directories one after the other. -/
def directories (task : Task) (rule : DiffRule)
    (compare : Place → Place → Nat × List (Nat × Octets)) (first second : Place) :
    Nat × List (Nat × Octets) :=
  let names := fun (place : Place) ↦
    if place.found = some .directory then task.tree.namesBelow place.location else []
  let isKept := fun (name : String) ↦ !(rule.excluded.any fun pattern ↦
    Pattern.fits pattern false (Octets.ofText name))
  let all := ((names first ++ names second).eraseDups.filter isKept).mergeSort
    fun a b ↦ Octets.isAtMost (Octets.ofText a) (Octets.ofText b)
  all.foldl (fun (state : Nat × List (Nat × Octets)) name ↦
    let (status, written) := compare (first.below task name) (second.below task name)
    (max state.1 status, state.2 ++ written)) (0, [])

/-- What is said of a file that is below one directory alone. -/
def onlyOne (place : Place) : Nat × List (Nat × Octets) :=
  let name := (place.path.reverse.takeWhile (· != '/')).reverse
  let directory := place.path.take (place.path.length - name.length - 1)
  (1, [(1, "Only in ".toList ++ directory ++ ": ".toList ++ name ++ ['\n'])])

/-- Compares two places; `depth` bounds the directories between the first ones and those. -/
def places (task : Task) (rule : DiffRule) : (depth : Nat) → (isBelow : Bool) → Place → Place →
    Nat × List (Nat × Octets)
  | 0, _, _, _ => (0, [])
  | depth + 1, isBelow, first, second =>
    let inside := fun (_ : Unit) ↦
      rule.directories task (fun a b ↦ places task rule depth true a b) first second
    let alone := fun (isFilled : Bool) (place : Place) (entry : Entry) ↦
      if !isFilled then onlyOne place
      else if entry == .directory then if rule.isRecursive then inside () else onlyOne place
      else rule.files task isBelow (first.file task) (second.file task)
    let lost := fun (place : Place) ↦
      (2, task.message (place.path ++ ": No such file or directory".toList))
    match first.found, second.found with
    | none, none => (0, [])
    | some entry, none => alone rule.fills.2 first entry
    | none, some entry => alone rule.fills.1 second entry
    | some .directory, some .directory =>
      if isBelow && !rule.isRecursive then
        (0, [(1, "Common subdirectories: ".toList ++ first.path ++ " and ".toList ++ second.path ++
          ['\n'])])
      else inside ()
    | some (.file _ _), some (.file _ _) =>
      rule.files task isBelow (first.file task) (second.file task)
    | some (.link _), some (.link _) => (2, [lost first, lost second])
    | some (.link _), some _ => (2, [lost first])
    | some _, some (.link _) => (2, [lost second])
    | some one, some two =>
      let kind := fun (place : Place) (entry : Entry) ↦
        (Utility.kindName (task.records.of place.location entry) entry).toList
      (1, [(1, "File ".toList ++ first.path ++ " is a ".toList ++ kind first one ++
        " while file ".toList ++ second.path ++ " is a ".toList ++ kind second two ++ ['\n'])])

end DiffRule

namespace Utility

/-- The form of the options of `diff`. -/
def diffForm : OptionForm where
  flags := "0123456789abBcdeEfHilnNpPqrstTuvwyZ\x01\x02\x03\x04\x05\x06".toList
  valued := "CDFILSUWxX\x10\x11\x12\x13\x14\x15\x16\x17\x18\x19\x1a".toList
  long := [("binary", '\x01'), ("brief", 'q'), ("changed-group-format", '\x10'), ("context", 'c'),
    ("ed", 'e'), ("exclude", 'x'), ("exclude-from", 'X'), ("expand-tabs", 't'),
    ("forward-ed", 'f'), ("horizon-lines", '\x11'), ("ifdef", 'D'), ("ignore-all-space", 'w'),
    ("ignore-blank-lines", 'B'), ("ignore-case", 'i'), ("ignore-file-name-case", '\x01'),
    ("ignore-matching-lines", 'I'), ("ignore-space-change", 'b'), ("ignore-tab-expansion", 'E'),
    ("ignore-trailing-space", 'Z'), ("initial-tab", 'T'), ("label", 'L'), ("left-column", '\x02'),
    ("line-format", '\x12'), ("minimal", 'd'), ("new-file", 'N'), ("new-group-format", '\x13'),
    ("new-line-format", '\x14'), ("no-dereference", '\x01'), ("normal", '\x03'),
    ("old-group-format", '\x15'), ("old-line-format", '\x16'), ("rcs", 'n'), ("recursive", 'r'),
    ("report-identical-files", 's'), ("show-c-function", 'p'), ("show-function-line", 'F'),
    ("side-by-side", 'y'), ("speed-large-files", 'H'), ("starting-file", 'S'),
    ("strip-trailing-cr", '\x04'), ("suppress-blank-empty", '\x05'),
    ("suppress-common-lines", '\x06'), ("tabsize", '\x17'), ("text", 'a'),
    ("unchanged-group-format", '\x18'), ("unchanged-line-format", '\x19'),
    ("unidirectional-new-file", 'P'), ("unified", 'u'), ("width", 'W'), ("color", '\x01'),
    ("palette", '\x1a')]
  stopsEarly := false

/-- The style that an option asks for. -/
def styleOf? : Char → Option DiffStyle
  | 'c' | 'C' => some .context
  | 'u' | 'U' => some .unified
  | 'e' => some .editor
  | 'f' => some .letters
  | 'n' => some .counts
  | 'y' => some .beside
  | 'D' | '\x10' | '\x12' | '\x13' | '\x14' | '\x15' | '\x16' | '\x18' | '\x19' => some .merged
  | '\x03' => some .normal
  | _ => none

/-- The context that options ask for: the most that one of them does, but for digits, which count
more than a letter alone. -/
def contextOf (options : Options) : Except Octets Nat := do
  let letters := options.found.filter fun entry ↦ ['c', 'u', 'C', 'U'].contains entry.1
  let given ← letters.mapM fun (_, text) ↦
    if text.isEmpty then pure 3
    else
      match Number.plain? text with
      | some value => pure value
      | none => throw ("invalid context length '".toList ++ text ++ ['\x27'])
  let context := given.foldl max 0
  let digits := (options.found.filter fun entry ↦ entry.1.isDigit).map (·.1)
  let isExplicit := letters.any fun entry ↦ !entry.2.isEmpty
  let counted := Text.digitsValue 10 digits
  if !digits.isEmpty && (context < counted || !isExplicit) then return counted
  else return if letters.isEmpty then 3 else context

/-- The test for lines that expressions are found in, if there are any. -/
def lineTest? (patterns : List Octets) : Except Octets (Option (Octets → Bool)) := do
  let sought ← patterns.mapM fun pattern ↦
    match Dialect.looseBasic.sought false pattern with
    | .ok sought => pure sought
    | .error fault => throw (pattern ++ (": " ++ fault.message).toList)
  if sought.isEmpty then return none
  else return some fun line ↦ sought.any fun expression ↦ expression.isIn line

/-- The line holds nothing, with blanks aside if those do not count. -/
def isEmptyLine (blanks : BlankRule) (line : Octets) : Bool :=
  let isBlank := fun (c : Char) ↦ c.isWhitespace || c == '\x0b' || c == '\x0c'
  line.isEmpty || ((blanks.trailing || blanks.amounts || blanks.all) && line.all isBlank)

/-- The forms for merging that options give. -/
def mergeForms (options : Options) : Styling.MergeForms :=
  let name := (options.value? 'D').getD []
  let given := fun (letter : Char) (branch : Octets) ↦
    (options.value? letter).or (if options.has 'D' then some branch else none)
  let open_ := "#ifndef ".toList ++ name ++ '\n' :: "%<".toList
  let changed? := given '\x10' (open_ ++ "#else /* ".toList ++ name ++ " */\n%>#endif /* ".toList ++
    name ++ " */\n".toList)
  let old := (given '\x15' (open_ ++ "#endif /* ! ".toList ++ name ++ " */\n".toList)).getD
    (changed?.getD "%<".toList)
  let new := (given '\x13' ("#ifdef ".toList ++ name ++ '\n' :: "%>#endif /* ".toList ++ name ++
    " */\n".toList)).getD (changed?.getD "%>".toList)
  let line := fun (letter : Char) ↦
    ((options.value? letter).or (options.value? '\x12')).getD "%l\n".toList
  { oldGroup := old, newGroup := new
    equalGroup := (options.value? '\x18').getD "%=".toList
    changedGroup := changed?.getD (old ++ new)
    oldLine := line '\x16', newLine := line '\x14', equalLine := line '\x19' }

/-- The arguments without the operands among them, each after a blank. -/
def writtenOptions : (operands : List Octets) → List Octets → Octets
  | operand :: operands, word :: rest =>
    if word = operand then writtenOptions operands rest
    else ' ' :: Quoting.shellIfNeeded word ++ writtenOptions (operand :: operands) rest
  | [], word :: rest => ' ' :: Quoting.shellIfNeeded word ++ writtenOptions [] rest
  | _, [] => []

/-- The rule that options ask for. -/
def diffRule (task : Task) (options : Options) : Except Octets DiffRule := do
  let context ← contextOf options
  let styles := (options.found.filterMap fun entry ↦ styleOf? entry.1).eraseDups
  if styles.length > 1 then throw "conflicting output style options".toList
  let heads ← lineTest? ((if options.has 'p' then ["^[[:alpha:]$_]".toList] else []) ++
    options.values 'F')
  let hasLetter := fun (letter : Char) ↦ options.has letter
  let blanks : BlankRule := ⟨hasLetter 'E', hasLetter 'Z', hasLetter 'b', hasLetter 'w'⟩
  let matched ← lineTest? (options.values 'I')
  let size := fun (letter : Char) (usual : Nat) (what : String) ↦
    match options.value? letter with
    | none => pure usual
    | some text =>
      match Number.plain? text with
      | some 0 => throw ("invalid ".toList ++ what.toList ++ " '".toList ++ text ++ ['\x27'])
      | some value => pure value
      | none => throw ("invalid ".toList ++ what.toList ++ " '".toList ++ text ++ ['\x27'])
  let width ← size 'W' 130 "width"
  let tabSize ← size '\x17' 8 "tabsize"
  let style := styles.headD (if options.has 'p' then .context else .normal)
  let around := style == .context || style == .unified
  let context := if around then context else 0
  let listed := (options.values 'X').flatMap fun file ↦
    ((task.contents file).toOption.map plainLines).getD []
  let ignores : Option (Octets → Bool) :=
    if options.has 'B' then
      some fun line ↦ isEmptyLine blanks line || matched.any fun test ↦ test line
    else matched
  return {
    style, context, isBrief := options.has 'q', tellsSame := options.has 's'
    isRecursive := options.has 'r', fills := (options.has 'N' || options.has 'P', options.has 'N')
    foldsCase := options.has 'i', blanks, ignores, heads, isText := options.has 'a'
    dropsReturns := options.has '\x04', isMinimal := options.has 'd', labels := options.values 'L'
    tabSize, expandsTabs := options.has 't', hasTab := options.has 'T'
    isBare := options.has '\x05', width, showsLeftAlone := options.has '\x02'
    hidesEqual := options.has '\x06', excluded := options.values 'x' ++ listed
    horizon := max context (((options.value? '\x11').bind Number.plain?).getD 0)
    forms := mergeForms options, written := writtenOptions options.operands task.arguments }

/-- The place of an operand, or why there is none. -/
def diffPlace (task : Task) (path : Octets) : Except SystemError DiffRule.Place := do
  let location ← task.tree.locate task.here (pathOf path) true
  match task.tree.find? location with
  | some entry => return ⟨path, location, some entry⟩
  | none => throw .notFound

/-- The path of a file below a directory that has the name of another one. -/
def pathBelow (directory file : Octets) : Octets :=
  let name := (file.reverse.dropWhile (· == '/')).takeWhile (· != '/') |>.reverse
  directory ++ (if directory.getLast? = some '/' then [] else ['/']) ++ name

/-- Compares two operands. -/
def diffOperands (task : Task) (rule : DiffRule) (first second : Octets) : Effect :=
  let ended := fun (result : Nat × List (Nat × Octets)) ↦
    task.finishAll result.1 result.2 (Task.isInput first || Task.isInput second)
  let isDirectory := fun (path : Octets) ↦
    !Task.isInput path && ((diffPlace task path).toOption.bind (·.found)) == some .directory
  let refused := fun (path : Octets) (error : SystemError) ↦
    (2, task.message (path ++ (": " ++ error.reason).toList))
  if (isDirectory first && Task.isInput second) || (isDirectory second && Task.isInput first) then
    task.finishAll 2 [(2, task.message "cannot compare '-' to a directory".toList)] false
  else
    let isPresent := fun (path : Octets) ↦ Task.isInput path || (diffPlace task path).isOk
    let bothThere := isPresent first && isPresent second
    let (one, two) :=
      if isDirectory first && !isDirectory second && bothThere then
        (pathBelow first second, second)
      else if isDirectory second && !isDirectory first && bothThere then
        (first, pathBelow second first)
      else (first, second)
    let special := fun (path : Octets) ↦
      Task.isInput path || (Task.deviceContents? path).isSome
    let file := fun (path : Octets) ↦
      if special path then (task.contents path).map fun text ↦
        (⟨path, text, task.now⟩ : ComparedFile)
      else (diffPlace task path).map (·.file task)
    if special one || special two then
      match file one, file two with
      | .ok a, .ok b => ended (rule.files task false a b)
      | a, b =>
        let messages := [(one, a), (two, b)].filterMap fun (path, file) ↦
          match file with
          | .error error => some (refused path error)
          | .ok _ => none
        ended (2, messages)
    else
      let fills := fun (isFilled : Bool) (path : Octets)
          (place : Except SystemError DiffRule.Place) ↦
        match place with
        | .error .notFound =>
          if isFilled then Except.ok (⟨path, [], none⟩ : DiffRule.Place) else place
        | place => place
      match diffPlace task one, diffPlace task two with
      | .error a, .error b => ended (2, [refused one a, refused two b])
      | a, b =>
        match fills rule.fills.1 one a, fills rule.fills.2 two b with
        | .ok a, .ok b => ended (rule.places task 100 false a b)
        | .error a, _ => ended (2, [refused one a])
        | _, .error b => ended (2, [refused two b])

/-- Compares files line by line. -/
def diff : Utility where
  name := "diff"
  run task :=
    match Options.parse diffForm task.arguments with
    | .error text => task.misuseTwice text.toList
    | .ok options =>
      match diffRule task options with
      | .error text => task.misuseTwice text
      | .ok rule =>
        match options.operands with
        | [first, second] => diffOperands task rule first second
        | [] =>
          let last := task.arguments.getLastD "diff".toList
          task.misuseTwice ("missing operand after '".toList ++ last ++ ['\x27'])
        | [operand] => task.misuseTwice ("missing operand after '".toList ++ operand ++ ['\x27'])
        | _ :: _ :: extra :: _ => task.misuseTwice ("extra operand '".toList ++ extra ++ ['\x27'])

/-- The utilities that compare files. -/
def ofComparing : List Utility :=
  [cmp, diff]

end Utility

end Scaffold.Shell
