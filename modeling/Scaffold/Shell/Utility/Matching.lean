import Scaffold.Shell.Pattern
import Scaffold.Shell.Search.Perl
import Scaffold.Shell.Utility.Basic
import Scaffold.Shell.Utility.Locating
import Scaffold.Shell.Utility.Matching.Report

/-!
# Searching files

`grep` shows the lines of files in which one of its expressions stands for a part. The files are the
operands, and the files below those that are directories, without the files that are left out by
their names (`NameFilter`).
-/

set_option autoImplicit false

namespace Scaffold.Shell

open Text (Octets)

/-- Which names are left out: rules with whether they take a name in, of which the last one that
fits a name counts. -/
structure NameFilter where
  rules : List (Bool × Octets)

namespace NameFilter

/-- A name is left out. A name without a rule is, if the first rule takes names in. -/
def omits (filter : NameFilter) (fits : Octets → Bool) : Bool :=
  match filter.rules.reverse.find? fun rule ↦ fits rule.2 with
  | some (isTaken, _) => !isTaken
  | none => (filter.rules.head?.map (·.1)).getD false

/-- The name of an entry of a directory is left out. -/
def omitsEntry (filter : NameFilter) (name : Octets) : Bool :=
  filter.omits fun pattern ↦ Pattern.fits pattern false name

/-- An operand is left out: a pattern may fit what follows one of its slashes. -/
def omitsOperand (filter : NameFilter) (operand : Octets) : Bool :=
  let starts := (List.range operand.length).filter fun index ↦
    operand[index]? == some '/' && operand[index + 1]?.any (· != '/')
  filter.omits fun pattern ↦
    (operand :: starts.map fun index ↦ operand.drop (index + 1)).any (Pattern.fits pattern false)

end NameFilter

/-- What is searched: the name it is shown under, its contents, and whether it is the input or a
file with a size. -/
structure SearchSource where
  name : Octets
  contents : Except SystemError Octets
  isInput : Bool
  isFile : Bool

/-- How files are found. -/
structure FileChoice where
  files : NameFilter
  directories : NameFilter
  /-- Directories are gone through. -/
  isDeep : Bool
  /-- Links in them are followed. -/
  follows : Bool
  /-- Directories are passed over. -/
  passesOver : Bool
  inputName : Octets

namespace FileChoice

/-- A file, or what keeps it from being read. -/
def source (task : Task) (name : Octets) (location : Location) : SearchSource :=
  let contents :=
    match task.tree.find? location with
    | some (.file octets _) => .ok (Octets.ofBytes octets)
    | some .directory => .error .isDirectory
    | _ => .error .notFound
  ⟨name, contents, false, true⟩

/-- The files below a directory. -/
def below (choice : FileChoice) (task : Task) : (depth : Nat) → Octets → Location →
    List SearchSource
  | 0, _, _ => []
  | depth + 1, path, location =>
    (task.tree.namesBelow location).flatMap fun name ↦
      let inner := Octets.ofText name
      let shown := if path.isEmpty then inner else Utility.below path inner
      let found (place : Location) : List SearchSource :=
        if task.tree.hasDirectory place then
          if choice.directories.omitsEntry inner then [] else choice.below task depth shown place
        else if choice.files.omitsEntry inner then []
        else [source task shown place]
      let place := location ++ [name]
      match task.tree.find? place with
      | some (.link target) =>
        if !choice.follows then []
        else
          match task.tree.locate location target true with
          | .ok place => found place
          | .error error =>
            if choice.files.omitsEntry inner then [] else [⟨shown, .error error, false, false⟩]
      | _ => found place

/-- What is searched of the operands; with each whether it lies in a directory. -/
def sources (choice : FileChoice) (task : Task) (operands : List Octets) :
    List (SearchSource × Bool) :=
  let operands :=
    if operands.isEmpty then if choice.isDeep then [[]] else [['-']] else operands
  operands.flatMap fun operand ↦
    if operand = ['-'] then
      [(⟨choice.inputName, task.contents operand, true, task.readsFile⟩, false)]
    else
      let path : Path := if operand.isEmpty then ⟨"."⟩ else pathOf operand
      let place := task.tree.locate task.here path true
      let isDirectory := place.toOption.any task.tree.hasDirectory
      let bare := Utility.withoutSlashes operand
      if isDirectory && choice.passesOver then []
      else if isDirectory && choice.isDeep then
        if !operand.isEmpty && choice.directories.omitsOperand bare then []
        else
          (choice.below task 200 operand (place.toOption.getD [])).map fun source ↦ (source, true)
      else if choice.files.omitsOperand operand then []
      else
        [(⟨operand, task.contents operand, Task.isInput operand,
          task.readsFile || !Task.isInput operand⟩, false)]

end FileChoice

end Scaffold.Shell

namespace Scaffold.Shell.Utility

open Text (Octets)

/-- The form of the options of `grep`. -/
def searchForm : OptionForm where
  flags := ['E', 'F', 'G', 'P', 'i', 'y', 'v', 'w', 'x', 'c', 'l', 'L', 'q', 's', 'n', 'H', 'h',
    'o', 'r', 'R', 'a', 'I', 'U', 'z', 'Z', 'b', 'T', 'u', 'V', '!', '?', ',', ':', '&']
  valued := ['e', 'f', 'm', 'A', 'B', 'C', 'd', 'D', 'X', '+', '~', '^', '@', '=', '%', ';']
  long := [("basic-regexp", 'G'), ("extended-regexp", 'E'), ("fixed-regexp", 'F'),
    ("fixed-strings", 'F'), ("perl-regexp", 'P'), ("after-context", 'A'), ("before-context", 'B'),
    ("binary-files", ';'), ("binary", 'U'), ("byte-offset", 'b'), ("context", 'C'), ("color", '!'),
    ("colour", '!'), ("count", 'c'), ("devices", 'D'), ("directories", 'd'), ("exclude", '~'),
    ("exclude-from", '@'), ("exclude-dir", '^'), ("file", 'f'), ("files-with-matches", 'l'),
    ("files-without-match", 'L'), ("group-separator", '%'), ("help", '?'), ("include", '+'),
    ("ignore-case", 'i'), ("no-ignore-case", '&'), ("initial-tab", 'T'), ("label", '='),
    ("line-buffered", ','), ("line-number", 'n'), ("line-regexp", 'x'), ("max-count", 'm'),
    ("no-filename", 'h'), ("no-group-separator", ':'), ("no-messages", 's'), ("null", 'Z'),
    ("null-data", 'z'), ("only-matching", 'o'), ("quiet", 'q'), ("recursive", 'r'),
    ("dereference-recursive", 'R'), ("regexp", 'e'), ("invert-match", 'v'), ("silent", 'q'),
    ("text", 'a'), ("unix-byte-offsets", 'u'), ("version", 'V'), ("with-filename", 'H'),
    ("word-regexp", 'w')]
  stopsEarly := false

/-- The letters of a word, where each run of digits is the value of the option for context. -/
def digitsApart : (left : Nat) → Octets → List Octets
  | 0, _ => []
  | _ + 1, [] => []
  | left + 1, c :: letters =>
    if c.isDigit then
      let digits := (c :: letters).takeWhile Char.isDigit
      ('-' :: 'C' :: digits) :: digitsApart left ((c :: letters).drop digits.length)
    else
      let others := (c :: letters).takeWhile fun c ↦ !c.isDigit
      ('-' :: others) :: digitsApart left ((c :: letters).drop others.length)

/-- Arguments where digits among the options ask for context. -/
def withContext : (isValue : Bool) → List Octets → List Octets
  | _, [] => []
  | true, word :: rest => word :: withContext false rest
  | false, word :: rest =>
    match word with
    | ['-', '-'] => word :: rest
    | '-' :: '-' :: name =>
      let isOpen := !name.contains '=' &&
        (Options.long? searchForm word name).toOption.any fun (_, letter) ↦
          searchForm.valued.contains letter
      word :: withContext isOpen rest
    | '-' :: letters =>
      let flags := letters.takeWhile fun c ↦ !searchForm.valued.contains c
      let valued := letters.drop flags.length
      let words := digitsApart (flags.length + 1) flags ++
        (if valued.isEmpty then [] else ['-' :: valued])
      (if letters.isEmpty then [word] else words) ++ withContext (valued.length == 1) rest
    | word => word :: withContext false rest

/-- An expression to search for, with where it comes from. -/
structure Origin where
  place : Octets
  pattern : Octets

/-- The expressions that options give; or what is wrong with a file that has some. -/
def patternsOf (task : Task) : List (Char × Octets) → Except Octets (List Origin)
  | [] => .ok []
  | (letter, value) :: rest => do
    let others ← patternsOf task rest
    if letter = 'e' then
      return (Text.pieces (· == '\n') value).map (⟨[], ·⟩) ++ others
    else if letter = 'f' then
      match task.contents value with
      | .ok text =>
        return (plainLines text).zipIdx.map (fun (line, index) ↦
          ⟨value ++ ':' :: Number.digits 10 (index + 1) ++ ": ".toList, line⟩) ++ others
      | .error error => throw (value ++ (": " ++ error.reason).toList)
    else return others

/-- What is wrong with the values of options: the first that is. -/
def valueFault? (options : Options) : Option String :=
  options.found.findSome? fun (letter, value) ↦
    match letter with
    | 'A' | 'B' | 'C' =>
      if (Number.decimal? value).any (0 ≤ ·) then none
      else some (Octets.toText value ++ ": invalid context length argument")
    | 'm' => if (Number.decimal? value).isSome then none else some "invalid max count"
    | 'D' =>
      if value = "read".toList ∨ value = "skip".toList then none
      else some "unknown devices method"
    | ';' =>
      if ["binary", "text", "without-match"].contains (String.ofList value) then none
      else some "unknown binary-files type"
    | 'X' =>
      if ["grep", "egrep", "fgrep", "awk", "gawk", "posixawk", "perl"].contains
        (String.ofList value) then none
      else some ("invalid matcher " ++ Octets.toText value)
    | _ => none

/-- What signs without anything to repeat are called in a warning. -/
def signName : SearchToken → String
  | .plus => "+"
  | .question => "?"
  | .openBrace => "\x7b...\x7d"
  | _ => "*"

/-- What is searched for, and the warnings about it; or all that is wrong with the expressions. -/
def soughtOf (kind : Char) (folds : Bool) (origins : List Origin) :
    Except (List Octets) (Option Sought × List String) := do
  let patterns := origins.map (·.pattern)
  if kind = 'P' then
    match patterns with
    | [pattern] =>
      match Perl.sought folds false pattern with
      | .ok sought => return (some sought, [])
      | .error fault => throw [fault.message.toList]
    | [] => return (none, [])
    | _ => throw ["the -P option only supports a single pattern".toList]
  else
    let dialect := if kind = 'E' then Dialect.looseExtended else Dialect.looseBasic
    let read (origin : Origin) : Except SearchFault (Expression × List SearchToken) :=
      if kind = 'F' then .ok (Expression.literal origin.pattern, [])
      else dialect.readNoting origin.pattern
    let results := origins.map fun origin ↦ (origin, read origin)
    let faults := results.filterMap fun (origin, result) ↦
      match result with
      | .error fault => some (origin.place ++ fault.message.toList)
      | .ok _ => none
    if !faults.isEmpty then throw faults.eraseDups
    let read := results.filterMap fun (_, result) ↦ result.toOption
    let signs := if kind = 'E' then read.flatMap (·.2) else []
    let expression? := (read.map (·.1)).foldr (fun expression rest ↦
      some (rest.elim expression (Expression.either expression))) none
    let fold (expression : Expression) : Expression :=
      if folds then expression.folded else expression
    return (expression?.map fun expression ↦ Sought.of (fold expression) false,
      signs.map fun sign ↦ "warning: " ++ signName sign ++ " at start of expression")

/-- Which of the names of files are shown, if only names are: those with lines that are found, or
those without. -/
def namesShown (options : Options) : Option Bool :=
  (options.found.reverse.find? fun entry ↦ entry.1 == 'l' || entry.1 == 'L').map fun entry ↦
    entry.1 == 'l'

/-- The state of searching files one after the other. -/
structure Searching where
  written : List (Nat × Octets)
  isFound : Bool
  isWrong : Bool
  hasShown : Bool
  input : Octets
  isOver : Bool

namespace Searching

/-- What follows a line of a text. -/
def afterLine (ending : Char) : (number : Nat) → Octets → Octets
  | 0, text => text
  | number + 1, text => afterLine ending number ((text.dropWhile (· != ending)).drop 1)

/-- Goes on with a text. -/
def text (task : Task) (options : Options) (report : LineReport) (source : SearchSource)
    (text : Octets) (state : Searching) : Searching :=
  let text := if source.isInput then state.input else text
  let isBinary := report.ending != '\x00' && text.contains '\x00' && !options.has 'a' &&
    options.value? ';' != some "text".toList
  let isPassedOver := isBinary &&
    (options.has 'I' || options.value? ';' == some "without-match".toList)
  let isQuiet := options.has 'q'
  let names? := namesShown options
  let tellsName := names?.isSome || isQuiet
  let (count, last) := if isPassedOver then (0, 0) else report.count text
  let isFound := count > 0
  let width :=
    if !report.hasTab then 0
    else if source.isFile then (Number.digits 10 text.length).length
    else 19
  let ending := if report.endsNames then '\x00' else '\n'
  let (written, hasShown) : List (Nat × Octets) × Bool :=
    if isQuiet then ([], state.hasShown)
    else
      match names? with
      | some isIncluded =>
        (if isFound == isIncluded then
          [(1, report.painted (·.name) source.name ++ [ending])] else [], state.hasShown)
      | none =>
        if options.has 'c' then
          let name := if report.showsNames then report.named source.name ':' else []
          ([(1, name ++ Number.digits 10 count ++ ['\n'])], state.hasShown)
        else if isBinary then
          (if isFound then
            [(2, task.message (source.name ++ ": binary file matches".toList))] else [],
            state.hasShown)
        else
          let progress := report.lines source.name width state.hasShown text
          ([(1, progress.shown.reverse.flatten)], progress.hasShown)
  let isFull := report.most.any (· ≤ count) && !tellsName
  { written := state.written ++ written
    isFound := state.isFound || isFound
    isWrong := state.isWrong
    hasShown
    input :=
      if !source.isInput then state.input
      else if isFull && task.readsFile then afterLine report.ending last text
      else []
    isOver := state.isOver || (isQuiet && isFound) }

/-- Goes on with one source. -/
def step (task : Task) (options : Options) (report : LineReport) (state : Searching)
    (entry : SearchSource × Bool) : Searching :=
  let (source, isInside) := entry
  if state.isOver then state
  else
    match source.contents with
    | .error error =>
      let text := task.message (source.name ++ (": " ++ error.reason).toList)
      { state with
        written := state.written ++ (if options.has 's' then [] else [(2, text)])
        isWrong := true }
    | .ok text =>
      Searching.text task options
        { report with showsNames := report.showsNames || (isInside && !options.has 'h') }
        source text state

end Searching

/-- The colours that are used, and a warning about how they are set. -/
def paletteOf (task : Task) (options : Options) : Option Palette × List String :=
  match options.value? '!' with
  | some value =>
    if ["always", "yes", "force"].contains (String.ofList value) then
      let old := (task.settings.lookup "GREP_COLOR".toList).getD []
      let set := (task.settings.lookup "GREP_COLORS".toList).getD []
      let isColour := old.all fun c ↦ c == ';' || c.isDigit
      let warning := "warning: GREP_COLOR='" ++ Octets.toText old ++
        "' is deprecated; use GREP_COLORS='mt=" ++ Octets.toText old ++ "'"
      let palette :=
        if old.isEmpty || !isColour then Palette.usual
        else { Palette.usual with selectedMatch := old, contextMatch := old }
      (some (palette.read set), if old.isEmpty then [] else [warning])
    else (none, [])
  | none => (none, [])

/-- Searches files. -/
def searchFiles (task : Task) (options : Options) (search : LineSearch) (warnings : List String)
    (operands : List Octets) : Effect :=
  let action := String.ofList ((options.value? 'd').getD [])
  let isDeep := options.has 'r' || options.has 'R' || action = "recurse"
  let context? := (options.value? 'C').bind Number.plain?
  let names := options.found.reverse.find? fun entry ↦ entry.1 == 'H' || entry.1 == 'h'
  let hasContext := options.has 'A' || options.has 'B' || options.has 'C'
  let number (letter : Char) : Nat :=
    ((options.value? letter).bind Number.decimal?).elim (context?.getD 0) Int.toNat
  let (palette, older) := paletteOf task options
  let gaps := options.found.reverse.find? fun entry ↦ entry.1 == '%' || entry.1 == ':'
  let report : LineReport :=
    { search
      showsNames :=
        match names with
        | some (letter, _) => letter == 'H'
        | none => operands.length > 1
      showsNumbers := options.has 'n'
      showsOffsets := options.has 'b'
      showsParts := options.has 'o'
      hasTab := options.has 'T'
      endsNames := options.has 'Z'
      ending := if options.has 'z' then '\x00' else '\n'
      before := number 'B'
      after := number 'A'
      gap :=
        if !hasContext then none
        else
          match gaps with
          | some ('%', text) => some text
          | some _ => none
          | none => some ['-', '-']
      most := ((options.value? 'm').bind Number.decimal?).bind fun most ↦
        if most < 0 then none else some most.toNat
      palette }
  let rules (letters : List Char) : List (Bool × Octets) :=
    options.found.flatMap fun (letter, value) ↦
      if !letters.contains letter then []
      else if letter = '@' then
        (plainLines ((task.contents value).toOption.getD [])).map fun line ↦ (false, line)
      else if letter = '^' then [(false, withoutSlashes value)]
      else [(letter == '+', value)]
  let choice : FileChoice :=
    { files := ⟨rules ['+', '~', '@']⟩
      directories := ⟨rules ['^']⟩
      isDeep
      follows := options.has 'R'
      passesOver := action = "skip" && !isDeep
      inputName := (options.value? '=').getD "(standard input)".toList }
  let warned := (older ++ warnings).map fun text ↦ (2, task.message text.toList)
  let isHopeless := report.most == some 0 && namesShown options != some false
  if isHopeless then task.finishAll 1 warned false
  else
    let sources := choice.sources task operands
    let state := sources.foldl (Searching.step task options report)
      ⟨warned, false, false, false, task.input, false⟩
    let status :=
      if state.isWrong && !state.isOver then 2 else if state.isFound then 0 else 1
    { task.finishAll status state.written false with input := state.input }

/-- The usage of `grep`. -/
def searchUsage : String :=
  "Usage: grep [OPTION]... PATTERNS [FILE]...\n" ++
    "Try 'grep --help' for more information.\n"

/-- Searches files for the expressions that options and operands give. -/
def searchGiven (task : Task) (options : Options) (operands : List Octets) : Effect :=
  let hasOwn := options.has 'e' || options.has 'f'
  match hasOwn, operands with
  | false, [] => ⟨2, [(2, searchUsage.toList)], task.input, none, [], 0⟩
  | _, operands =>
    let given := if hasOwn then options.found else [('e', operands.headD [])]
    let operands := if hasOwn then operands else operands.drop 1
    let kind := ((options.found.find? fun entry ↦
      ['E', 'F', 'G', 'P'].contains entry.1).map (·.1)).getD 'G'
    let cases := options.found.reverse.find? fun entry ↦ ['i', 'y', '&'].contains entry.1
    let folds := cases.any fun entry ↦ entry.1 != '&'
    let isOpposite := options.has 'v'
    match patternsOf task given with
    | .error message => task.complain 2 message
    | .ok origins =>
      let isPlain := !options.has 'x' && !options.has 'w'
      let isNothing := if origins.isEmpty then !isOpposite else
        origins.all (·.pattern.isEmpty) && origins.length == 1 && isOpposite && isPlain
      if isNothing && namesShown options != some false then task.finishAll 1 [] false
      else
        match soughtOf kind folds origins with
        | .error messages =>
          task.finishAll 2 (messages.map fun text ↦ (2, task.message text)) false
        | .ok (sought, warnings) =>
          searchFiles task options
            { sought
              wholeWords := options.has 'w' && !options.has 'x'
              wholeLines := options.has 'x'
              isOpposite } (warnings ++
                if options.has 'u' then ["warning: --unix-byte-offsets (-u) is obsolete"] else [])
            operands

/-- Searches files; `letter` is an option that is always there. -/
def searching (name : String) (letter : Option Char) : Utility where
  name := name
  run task :=
    let task := { task with name := "grep" }
    match Options.parse searchForm (withContext false task.arguments) with
    | .error text =>
      ⟨2, [(2, task.message text.toList ++ searchUsage.toList)], task.input, none, [], 0⟩
    | .ok options =>
      let options := letter.elim options fun letter ↦ options.push letter []
      let kinds := (options.found.map (·.1)).filter ['E', 'F', 'G', 'P'].contains
      let actions := ["read", "skip", "recurse"]
      match valueFault? options with
      | some text => task.complain 2 text.toList
      | none =>
        if kinds.eraseDups.length > 1 then task.complain 2 "conflicting matchers specified".toList
        else if options.has 'V' then task.finish 0 "grep (GNU grep) 3.8\n".toList
        else if options.has '?' then task.finish 0 searchUsage.toList
        else
          match (options.value? 'd').filter fun text ↦ !actions.contains (String.ofList text) with
          | some wrong =>
            let text := "invalid argument '".toList ++ wrong ++ ("' for '--directories'\n" ++
              "Valid arguments are:\n  - 'read'\n  - 'recurse'\n  - 'skip'\n" ++
              searchUsage).toList.dropLast
            task.complain 1 text
          | none =>
            match (options.values '@').find? fun file ↦ (task.contents file).toOption.isNone with
            | some file => task.complain 2 (file ++ ": No such file or directory".toList)
            | none => searchGiven task options options.operands

/-- The utilities that search files. -/
def ofMatching : List Utility :=
  [searching "grep" none, searching "egrep" (some 'E'), searching "fgrep" (some 'F'),
    searching "rgrep" (some 'r')]

end Scaffold.Shell.Utility
