import Scaffold.Shell.Pattern
import Scaffold.Shell.Quoting
import Scaffold.Shell.Utility.Basic
import Scaffold.Shell.Utility.Filing
import Scaffold.Shell.Utility.Listing.Rule
import Scaffold.Shell.Utility.Ordering
import Scaffold.Shell.Utility.Timing

/-!
# Listing files

The utility `ls`, and the ones that set files out in another way. The files that are listed
(`Row`) are gathered, put in order (`ListRule.sorted`) and set out (`ListRule.shown`): the operands
that are no directories first, and then what the directories hold. Texts side by side
(`Columns.columns`, `Columns.rows`) stand in as many columns as fit into a line, each as wide as its
widest text and two blanks. What cannot be printed has no width.
-/

set_option autoImplicit false

namespace Scaffold.Shell.Columns

open Text (Octets)

/-- The width of a text. -/
def widthOf (text : Octets) : Nat :=
  text.countP Quoting.isPrintable

/-- The least width of a column, the gap behind it included. -/
def leastWidth : Nat := 3

/-- Where texts are set out: the width of a line, none if it is zero, the distance of tabs, none if
it is zero, and what ends a line. -/
structure Page where
  width : Nat
  tab : Nat
  ending : Char

/-- Blanks and tabs that lead from one place of a line to another; `left` bounds the steps. -/
def gap (tab : Nat) : (left : Nat) → (place target : Nat) → Octets
  | 0, _, _ => []
  | left + 1, place, target =>
    if target ≤ place then []
    else if tab ≠ 0 ∧ target / tab > (place + 1) / tab then
      '\t' :: gap tab left (place + (tab - place % tab)) target
    else ' ' :: gap tab left (place + 1) target

/-- The widths of so many columns of texts of given widths, where the text at an index belongs to
the column that `columnOf` tells; behind the last column is no gap. -/
def widthsOf (count : Nat) (columnOf : Nat → Nat) (widths : List Nat) : List Nat :=
  (List.range count).map fun column ↦
    widths.zipIdx.foldl (fun widest (width, index) ↦
      if columnOf index = column then
        max widest (width + if column + 1 = count then 0 else 2)
      else widest) leastWidth

/-- The column of the text at an index among so many texts in so many columns: they fill one column
after the other, or one line after the other. -/
def columnOf (isAcross : Bool) (texts count index : Nat) : Nat :=
  if isAcross then index % count else index / ((texts + count - 1) / count)

/-- The most columns that fit into a line, with their widths; `count` is the number to try first. -/
def fitting (page : Page) (isAcross : Bool) (widths : List Nat) : (count : Nat) → List Nat
  | 0 => []
  | 1 => widthsOf 1 (columnOf isAcross widths.length 1) widths
  | count + 1 =>
    let found := widthsOf (count + 1) (columnOf isAcross widths.length (count + 1)) widths
    let isNarrow := found.all (· == leastWidth)
    if isNarrow || found.foldl (· + ·) 0 < page.width then found
    else fitting page isAcross widths count

/-- The widths of the columns for texts. -/
def chosen (page : Page) (isAcross : Bool) (texts : List Octets) : List Nat :=
  let most := (page.width + leastWidth - 1) / leastWidth
  fitting page isAcross (texts.map widthOf) (min most texts.length)

/-- One line of texts in columns of given widths. -/
def line (page : Page) (widths : List Nat) (texts : List Octets) : Octets :=
  let (shown, _) := texts.zipIdx.foldl (fun (state : Octets × Nat) (text, column) ↦
    let (shown, start) := state
    let finish := start + widths.getD column 0
    let after :=
      if column + 1 = texts.length then []
      else gap page.tab (finish + 1) (start + widthOf text) finish
    (shown ++ text ++ after, finish)) ([], 0)
  shown ++ [page.ending]

/-- Texts one after the other, with a mark between them, and a blank where the line goes on. -/
def joined (page : Page) (mark : Octets) (texts : List Octets) : Octets :=
  let (shown, _) := texts.zipIdx.foldl (fun (state : Octets × Nat) (text, index) ↦
    let (shown, place) := state
    let width := if page.width = 0 then 0 else widthOf text
    if index = 0 then (text, width)
    else if page.width = 0 || place + width + 2 < page.width then
      (shown ++ mark ++ ' ' :: text, place + 2 + width)
    else (shown ++ mark ++ page.ending :: text, width)) ([], 0)
  shown ++ [page.ending]

/-- Texts in columns that are filled one after the other. -/
def columns (page : Page) (texts : List Octets) : Octets :=
  if page.width = 0 then joined page [' '] texts
  else
    let widths := chosen page false texts
    let rows := (texts.length + widths.length - 1) / widths.length
    (List.range rows).flatMap fun row ↦
      line page widths <| (List.range widths.length).filterMap fun column ↦
        texts[column * rows + row]?

/-- Texts in columns, where one line is filled after the other. -/
def rows (page : Page) (texts : List Octets) : Octets :=
  if page.width = 0 then joined page [' '] texts
  else
    let widths := chosen page true texts
    let count := (texts.length + widths.length - 1) / widths.length
    (List.range count).flatMap fun row ↦
      line page widths ((texts.drop (row * widths.length)).take widths.length)

end Scaffold.Shell.Columns

namespace Scaffold.Shell.Utility

open Text (Octets)

/-! ### What is shown of a file -/

/-- A file that is listed; nothing but its name may be known. -/
structure Row extends Listed where
  isKnown : Bool

namespace Row

/-- The record of a file. -/
def record (row : Row) (task : Task) : FileRecord :=
  task.records.of row.location row.entry

/-- The number of octets of a file. -/
def size (row : Row) : Nat :=
  if row.isKnown then sizeOf row.entry else 0

/-- The octets that a file takes. -/
def room (row : Row) : Nat :=
  if row.isKnown then 1024 * blocksOf row.entry else 0

/-- The file is a directory. -/
def isDirectory (row : Row) : Bool :=
  row.entry == .directory

/-- What a link says. -/
def goal? (row : Row) : Option Octets :=
  match row.entry with
  | .link target => some (Octets.ofText target.text)
  | _ => none

end Row

namespace ListRule

/-- The mark of the kind of an entry. -/
def markOf (rule : ListRule) (task : Task) (location : Location) (entry : Entry) : Octets :=
  match rule.marks, entry with
  | .none, _ => []
  | _, .directory => ['/']
  | .directories, _ => []
  | .kinds, .file _ _ => if (task.records.of location entry).isPipe then ['|'] else []
  | .all, .file _ isExecutable =>
    if (task.records.of location entry).isPipe then ['|'] else if isExecutable then ['*'] else []
  | _, .link _ => ['@']

/-- The mark of the file that a link leads to. -/
def goalMark (rule : ListRule) (task : Task) (row : Row) (goal : Octets) : Octets :=
  if rule.marks = .none || rule.marks = .directories then []
  else
    match task.tree.locate row.location.dropLast (pathOf goal) true with
    | .ok place => (task.tree.find? place).elim [] (rule.markOf task place)
    | .error _ => []

/-- How the widths of a list come about: the widest number of a file, number of blocks, number of
names and size, and whether some name stands in quotes. -/
structure Widths where
  number : Nat
  blocks : Nat
  names : Nat
  size : Nat
  isQuoted : Bool

/-- The widths for files. -/
def widthsFor (rule : ListRule) (task : Task) (rows : List Row) : Widths :=
  let known := rows.filter (·.isKnown)
  let digits := fun (value : Row → Nat) ↦ widest (known.map fun row ↦ Number.digits 10 (value row))
  { number := digits fun row ↦ numberOf task.tree task.records row.location row.entry
    blocks := widest (known.map fun row ↦ rule.blockText row.room)
    names := digits fun row ↦ namesOf task.tree task.records row.location row.entry
    size := widest (known.map fun row ↦ rule.sizeText row.size)
    isQuoted := rule.alignsQuotes && rows.any fun row ↦
      rule.quoting.text rule.fileMarks row.name != row.name }

/-- The name of a file, with a blank in the place of a quote that others have. -/
def paddedName (rule : ListRule) (widths : Widths) (name : Octets) : Octets :=
  let shown := rule.nameText rule.fileMarks name
  if widths.isQuoted && shown == name then ' ' :: shown else shown

/-- What stands in front of a file in each list: its number, its blocks and its context. -/
def front (rule : ListRule) (task : Task) (widths : Widths) (row : Row) : Octets :=
  let padded := fun (width : Nat) (text : Octets) ↦
    (if rule.layout = .commas then text else atEnd width text) ++ [' ']
  let number := if !row.isKnown then ['?'] else
    Number.digits 10 (numberOf task.tree task.records row.location row.entry)
  (if rule.showsNumber then padded widths.number number else []) ++
    (if rule.showsBlocks then
      padded widths.blocks (if row.isKnown then rule.blockText row.room else ['?']) else []) ++
    if rule.showsContext && rule.layout ≠ .details then ['?', ' '] else []

/-- A file in a list of names. -/
def cell (rule : ListRule) (task : Task) (widths : Widths) (row : Row) : Octets :=
  rule.front task widths row ++ rule.paddedName widths row.name ++
    rule.markOf task row.location row.entry

/-- The time of a file: of the last half year, or not. -/
def timeText (task : Task) (forms : Octets × Octets) (record : FileRecord) : Octets :=
  let age := task.now - record.changed
  let isRecent := 0 ≤ age + 1000000 && age < 15778476000000
  task.timeText (if isRecent then forms.2 else forms.1) record.changed

/-- A file with what is known about it. -/
def detail (rule : ListRule) (task : Task) (forms : Octets × Octets) (widths : Widths)
    (row : Row) : Octets :=
  let record := row.record task
  let known := fun (text : Octets) ↦ if row.isKnown then text else ['?']
  let rights :=
    if row.isKnown then kindLetter record row.entry :: Rights.text record.rights
    else 'l' :: List.replicate 9 '?'
  let names := Number.digits 10 (namesOf task.tree task.records row.location row.entry)
  let owner := if rule.isNumeric then ['0'] else "root".toList
  let unknown := '?' :: List.replicate (if widths.names = 0 then 0 else owner.length - 1) ' '
  let owner := (if row.isKnown then owner else unknown) ++ [' ']
  let time :=
    if row.isKnown then timeText task forms record
    else atEnd (task.timeText forms.1 0).length ['?']
  let goal :=
    match row.isKnown, row.goal? with
    | true, some goal =>
      " -> ".toList ++ rule.nameText rule.fileMarks goal ++ rule.goalMark task row goal
    | _, _ => rule.markOf task row.location row.entry
  rule.front task widths row ++ rights ++ ' ' :: atEnd widths.names (known names) ++ [' '] ++
    (if rule.showsOwner then owner else []) ++ (if rule.showsGroup then owner else []) ++
    (if rule.showsAuthor then owner else []) ++ (if rule.showsContext then ['?', ' '] else []) ++
    atEnd widths.size (known (rule.sizeText row.size)) ++ ' ' :: time ++ ' ' ::
    rule.paddedName widths row.name ++ goal

/-- Files as they are set out, where the widths are those for given ones. -/
def shown (rule : ListRule) (task : Task) (forms : Octets × Octets) (measured rows : List Row) :
    Octets :=
  let widths := rule.widthsFor task measured
  let page : Columns.Page := ⟨rule.lineWidth, rule.tab.getD 8, rule.ending⟩
  let cells := rows.map (rule.cell task widths)
  if rows.isEmpty then []
  else
    match rule.layout with
    | .lines => cells.flatMap (· ++ [rule.ending])
    | .columns => Columns.columns page cells
    | .rows => Columns.rows page cells
    | .commas => Columns.joined page [','] cells
    | .details => (rows.map (rule.detail task forms widths)).flatMap (· ++ [rule.ending])

/-! ### Order -/

/-- The order of two files, but for directories that are shown first. -/
def compareRows (rule : ListRule) (task : Task) (isQuoted : Bool) (first second : Row) :
    Ordering :=
  let byName := Octets.order first.name second.name
  let changed := fun (row : Row) ↦ if row.isKnown then (row.record task).changed else 0
  let ending := fun (name : Octets) ↦
    if name.contains '.' then '.' :: (name.reverse.takeWhile (· != '.')).reverse else []
  let width := fun (name : Octets) ↦
    Columns.widthOf (rule.paddedName ⟨0, 0, 0, 0, isQuoted⟩ name)
  match rule.order with
  | .none => .eq
  | .name => byName
  | .time => (compare (changed second) (changed first)).then byName
  | .size => (compare second.size first.size).then byName
  | .ending => (Octets.order (ending first.name) (ending second.name)).then byName
  | .version => (Version.order first.name second.name).then byName
  | .width => (compare (width first.name) (width second.name)).then byName

/-- Files in order. -/
def sorted (rule : ListRule) (task : Task) (rows : List Row) : List Row :=
  if rule.order = .none then rows
  else
    let isQuoted := (rule.widthsFor task rows).isQuoted
    let leads := fun (row : Row) ↦
      row.isDirectory || row.goal?.any fun goal ↦
        task.tree.isDirectory row.location.dropLast (pathOf goal)
    let rank := fun (row : Row) ↦ if rule.directoriesFirst && leads row then 0 else 1
    rows.mergeSort fun first second ↦
      let found := rule.compareRows task isQuoted first second
      let found := if rule.isReversed then found.swap else found
      ((compare (rank first) (rank second)).then found) != .gt

/-! ### Gathering -/

/-- A pattern stands for a name; a point in front has to be in the pattern too. -/
def isIgnored (patterns : List Octets) (name : Octets) : Bool :=
  patterns.any fun pattern ↦
    (name.head? != some '.' || pattern.head? == some '.') && Pattern.fits pattern false name

/-- A name of a directory is not shown. -/
def omits (rule : ListRule) (name : Octets) : Bool :=
  (rule.omitted = .hidden && (name.head? == some '.' || isIgnored rule.hidden name)) ||
    isIgnored rule.ignored name

/-- The files of a directory that are shown, in order, and messages about those of which nothing is
known. -/
def rowsOf (rule : ListRule) (task : Task) (path : Octets) (location : Location) :
    List Row × List (Nat × Octets) :=
  let own : List Row :=
    if rule.omitted = .none then
      [⟨⟨['.'], location, .directory⟩, true⟩, ⟨⟨['.', '.'], location.dropLast, .directory⟩, true⟩]
    else []
  let rowOf := fun (name : String) ↦
    let shown := Octets.ofText name
    let place := location ++ [name]
    if rule.omits shown then none
    else
      match task.tree.find? place with
      | none => none
      | some (.link goal) =>
        let plain : Row := ⟨⟨shown, place, .link goal⟩, true⟩
        if rule.following = .always && rule.needsRecords then
          match task.tree.locate location ⟨name⟩ true with
          | .ok found =>
            some (⟨⟨shown, found, (task.tree.find? found).getD .directory⟩, true⟩, [])
          | .error error =>
            let whole := if path = ['.'] then shown else below path shown
            some ({ plain with isKnown := false },
              [(2, task.message (aboutOperand "cannot access" whole error))])
        else some (plain, [])
      | some entry => some (⟨⟨shown, place, entry⟩, true⟩, [])
  let found := (task.tree.namesBelow location).filterMap rowOf
  let own := own.filter fun row ↦ !isIgnored rule.ignored row.name
  (rule.sorted task (own ++ found.map (·.1)), found.flatMap (·.2))

/-- The file that an operand leads to. -/
def rowFor (rule : ListRule) (task : Task) (operand : Octets) : Except SystemError Row := do
  let locate := task.tree.locate task.here (pathOf operand)
  let rowAt := fun (place : Location) ↦
    match task.tree.find? place with
    | some entry => Except.ok (⟨⟨operand, place, entry⟩, true⟩ : Row)
    | none => .error SystemError.notFound
  match rule.following with
  | .always | .operands => rowAt (← locate true)
  | .directories =>
    match locate true with
    | .ok place =>
      if task.tree.find? place == some .directory then rowAt place
      else rowAt (← locate (operand.getLast? == some '/'))
    | .error .notFound => rowAt (← locate (operand.getLast? == some '/'))
    | .error error => .error error
  | .never => rowAt (← locate (operand.getLast? == some '/'))

/-! ### Lists -/

/-- A directory that is shown, with what it holds. -/
structure Folder where
  path : Octets
  rows : List Row
  messages : List (Nat × Octets)

/-- A directory and, if that is asked for, those below it; `within` are those that it is in. Fewer
than `depth` directories are one in the other. -/
def folders (rule : ListRule) (task : Task) : (depth : Nat) → (within : List Location) → Octets →
    Location → List Folder
  | 0, _, _, _ => []
  | depth + 1, within, path, location =>
    if within.contains location then
      [⟨path, [], [(2, task.message (Quoting.shellIfNeeded path ++
        ": not listing already-listed directory".toList))]⟩]
    else
      let (rows, messages) := rule.rowsOf task path location
      let inner := if !rule.isDeep then [] else
        rows.filter fun row ↦ row.isDirectory && row.name != ['.'] && row.name != ['.', '.']
      ⟨path, rows, messages⟩ :: inner.flatMap fun row ↦
        folders rule task depth (location :: within) (below path row.name) row.location

/-- A directory is one that was listed before. -/
def Folder.isRepeated (folder : Folder) : Bool :=
  folder.rows.isEmpty && !folder.messages.isEmpty

/-- What a directory holds as it is set out, after its name if it has one. -/
def folderText (rule : ListRule) (task : Task) (forms : Octets × Octets) (isNamed : Bool)
    (folder : Folder) : Octets :=
  let isMeasured := rule.layout = .details || rule.showsBlocks
  let total := folder.rows.foldl (fun sum row ↦ sum + row.room) 0
  (if isNamed then rule.nameText (· == ':') folder.path ++ [':', '\n'] else []) ++
    (if isMeasured then "total ".toList ++ rule.blockText total ++ [rule.ending] else []) ++
    rule.shown task forms folder.rows folder.rows

/-- Lists operands. -/
def list (rule : ListRule) (task : Task) (forms : Octets × Octets) (warnings : List Octets)
    (operands : List Octets) : Effect :=
  let found := (if operands.isEmpty then [['.']] else operands).map fun operand ↦
    (operand, rule.rowFor task operand)
  let messages := found.filterMap fun (operand, outcome) ↦
    match outcome with
    | .error error => some (2, task.message (aboutOperand "cannot access" operand error))
    | .ok _ => none
  let there := rule.sorted task (found.filterMap fun (_, outcome) ↦ outcome.toOption)
  let isOpened := fun (row : Row) ↦ row.isDirectory && !rule.showsDirectories
  let files := there.filter fun row ↦ !isOpened row
  let folders := (there.filter isOpened).flatMap fun row ↦
    rule.folders task 100 [] row.name row.location
  let isNamed := operands.length > 1 || rule.isDeep
  let blocks := (folders.filter (!·.isRepeated)).map (rule.folderText task forms isNamed)
  let blocks := if files.isEmpty then blocks else rule.shown task forms there files :: blocks
  let inner := folders.flatMap (·.messages)
  let status := if !messages.isEmpty || folders.any Folder.isRepeated then 2
    else if inner.isEmpty then 0 else 1
  task.finishAll status
    ((warnings.map fun text ↦ (2, task.message text)) ++ messages ++ inner ++
      [(1, (blocks.intersperse ['\n']).flatten)]) false

end ListRule

/-- Lists files, set out in a way where options ask for none, and with names in a style. -/
def listing (name : String) (usual : ListLayout) (style : Option Quoting.Style) : Utility :=
  ofOptions name ListRule.form 2 fun task options ↦
    let read : Except ListFault (ListRule × (Octets × Octets) × List Octets) := do
      let rule ← options.found.foldlM ListRule.take (ListRule.start usual style)
      let (rule, warnings) := rule.withSettings task.settings
      let forms ← if rule.layout = .details then rule.timeForms? else pure ([], [])
      return (rule, forms, warnings)
    match read with
    | .error (.hinted status text) => task.misuse status text
    | .error (.plain text) => task.complain 2 text
    | .ok (rule, forms, warnings) => rule.list task forms warnings options.operands

/-- The utilities that list files. -/
def ofListing : List Utility :=
  [listing "ls" .lines none, listing "dir" .columns (some .escaped),
    listing "vdir" .details (some .escaped)]

end Scaffold.Shell.Utility
