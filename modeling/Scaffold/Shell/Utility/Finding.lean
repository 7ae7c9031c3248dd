import Scaffold.Shell.Launcher
import Scaffold.Shell.Search.Dialect
import Scaffold.Shell.Utility.Locating

/-!
# Searching directories

`find` goes through directories and applies an expression of tests and actions to each file. An
expression is read into a tree (`FindTest`); what it does is an errand, because an action may have a
program run, and the tests after it hang on how that ended.
-/

set_option autoImplicit false

namespace Scaffold.Shell.Utility

open Text (Octets)

/-- A number, or the numbers above or below it. -/
inductive Bound
  | exactly (value : Nat)
  | above (value : Nat)
  | below (value : Nat)
  deriving DecidableEq, Repr

namespace Bound

/-- Reads a bound: a sign says that it is no number alone. -/
def ofText? : Octets → Option Bound
  | '+' :: rest => (Number.plain? rest).map above
  | '-' :: rest => (Number.plain? rest).map below
  | rest => (Number.plain? rest).map exactly

/-- The number is within the bound. -/
def admits : Bound → Int → Bool
  | exactly value, number => number == value
  | above value, number => number > value
  | below value, number => number < value

end Bound

/-- How rights are compared with given ones. -/
inductive RightsTest
  | exactly
  | all
  | any
  deriving DecidableEq, Repr

/-- A test or an action of `find`. -/
inductive FindTest
  | always (holds : Bool)
  | name (pattern : Octets) (folds : Bool)
  | path (pattern : Octets) (folds : Bool)
  | goal (pattern : Octets) (folds : Bool)
  /-- The whole path is what an expression stands for. -/
  | fits (sought : Sought)
  | kind (letters : Octets)
  /-- The kind of what a link leads to, if it leads anywhere. -/
  | goalKind (letters : Octets)
  | isEmpty
  /-- Somebody has one of these rights. -/
  | allows (bits : Nat)
  | rights (test : RightsTest) (mode : Octets)
  | size (bound : Bound) (unit : Nat)
  | names (bound : Bound)
  /-- So many of these seconds have passed since the file was changed, or until the end of the
  day. -/
  | age (bound : Bound) (unit : Nat) (isFromDay : Bool)
  | newer (time : Int)
  | same (location : Location) (group : Nat)
  | inode (bound : Bound)
  /-- Shows the path, in a file if there is one given. -/
  | print (ending : Char) (target : Option Octets)
  | printForm (form : Octets) (target : Option Octets)
  | list (target : Option Octets)
  | delete
  | prune
  | quit
  /-- Runs a program, in the directory of the file if `isThere`. -/
  | run (words : List Octets) (isThere asks : Bool)
  /-- Has a program of this number run with all files in the end. -/
  | collect (index : Nat)
  | negated (test : FindTest)
  | both (first second : FindTest)
  | either (first second : FindTest)
  | sequence (first second : FindTest)
  deriving Repr

/-! ### Reading expressions -/

namespace FindTest

/-- The test writes, removes or runs something. -/
def acts : FindTest → Bool
  | print _ _ | printForm _ _ | list _ | delete | run _ _ _ | collect _ | quit => true
  | negated test => test.acts
  | both first second | either first second | sequence first second => first.acts || second.acts
  | _ => false

/-- What is left of an expression, how deep to go, and the programs to run in the end. -/
structure Reading where
  words : List Octets
  least : Nat
  most : Nat
  /-- Files come after what lies below them. -/
  isDeepFirst : Bool
  collected : List (List Octets)
  /-- The form of expressions. -/
  dialect : Dialect
  /-- Ages are counted up to the end of the day. -/
  isFromDay : Bool
  /-- The files that are written to. -/
  targets : List Octets
  warnings : List Octets

/-- A part of the reading of an expression. -/
abbrev Reader := StateT Reading (Except String)

namespace Reader

/-- The next word, which is left where it is. -/
def next? : Reader (Option Octets) := do
  return (← get).words.head?

/-- Leaves the next word behind. -/
def advance : Reader Unit :=
  modify fun reading ↦ { reading with words := reading.words.drop 1 }

/-- The value of a test. -/
def value (test : String) : Reader Octets := do
  match ← next? with
  | some value =>
    advance
    return value
  | none => throw ("missing argument to `" ++ test ++ "'")

/-- The number that is the value of a test. -/
def number (test : String) : Reader Nat := do
  let text ← value test
  match Number.plain? text with
  | some number => return number
  | none =>
    throw ("Expected a positive decimal integer argument to " ++ test ++ ", but got '" ++
      Octets.toText text ++ "'")

/-- The bound that is the value of a test. -/
def bound (test : String) : Reader Bound := do
  let text ← value test
  match Bound.ofText? text with
  | some bound => return bound
  | none => throw ("invalid argument `" ++ Octets.toText text ++ "' to `" ++ test ++ "'")

/-- The octets of a unit of sizes. -/
def unitOf? : Octets → Option Nat
  | [] | ['b'] => some 512
  | ['c'] => some 1
  | ['w'] => some 2
  | ['k'] => some 1024
  | ['M'] => some 1048576
  | ['G'] => some 1073741824
  | _ => none

/-- The test for a size. -/
def sizeTest (text : Octets) : Reader FindTest := do
  let sign := text.takeWhile fun c ↦ c == '+' || c == '-'
  let digits := (text.drop sign.length).takeWhile Char.isDigit
  match Bound.ofText? (sign ++ digits), unitOf? (text.drop (sign.length + digits.length)) with
  | some bound, some unit => return size bound unit
  | _, _ => throw ("invalid -size type `" ++ Octets.toText text ++ "'")

/-- The test for kinds of files. -/
def kindTest (test : String) (text : Octets) : Reader FindTest := do
  let letters := text.filter (· != ',')
  match letters.find? fun c ↦ !"bcdpflsD".toList.contains c with
  | some wrong => throw ("Unknown argument to " ++ test ++ ": " ++ String.ofList [wrong])
  | none =>
    if letters.isEmpty then throw ("Arguments to " ++ test ++ " should contain at least one letter")
    else return kind letters

/-- The test for rights. -/
def rightsTest (text : Octets) : Reader FindTest := do
  let (test, mode) : RightsTest × Octets :=
    match text with
    | '-' :: mode => (.all, mode)
    | '/' :: mode => (.any, mode)
    | mode => (.exactly, mode)
  match Rights.after? mode false 0 0 with
  | some _ => return rights test mode
  | none => throw ("invalid mode '" ++ Octets.toText text ++ "'")

/-- The program to run that follows an action. -/
def program (test : String) : Reader FindTest := do
  let rest := (← get).words
  let isEnd := fun (word : Octets) ↦ word == [';']
  let holder := "\x7b\x7d".toList
  let plain := rest.takeWhile fun word ↦ !isEnd word
  let ends := (plain.zip (plain.drop 1)).findIdx? fun (first, second) ↦
    first == holder && second == ['+']
  match ends with
  | some index =>
    if test = "-ok" ∨ test = "-okdir" then throw ("missing argument to `" ++ test ++ "'")
    modify fun reading ↦ { reading with words := reading.words.drop (index + 2) }
    let words := rest.take index
    match words.find? fun word ↦ word == holder with
    | some _ => throw ("Only one instance of \x7b\x7d is supported with " ++ test ++ " ... +")
    | none =>
      let known := (← get).collected
      modify fun reading ↦ { reading with collected := known ++ [words] }
      return collect known.length
  | none =>
    if plain.isEmpty || plain.length = rest.length then
      throw ("missing argument to `" ++ test ++ "'")
    else
      modify fun reading ↦ { reading with words := rest.drop (plain.length + 1) }
      return run plain (test == "-execdir" || test == "-okdir") (test == "-ok" || test == "-okdir")

/-- The forms of expressions, by their names. -/
def dialects : List (String × Dialect) :=
  [("findutils-default", .editor), ("ed", .basic), ("emacs", .editor), ("gnu-awk", .extended),
    ("grep", .basic), ("posix-awk", .extended), ("awk", .extended), ("posix-basic", .basic),
    ("posix-egrep", .looseExtended), ("egrep", .looseExtended), ("posix-extended", .extended),
    ("posix-minimal-basic", .basic), ("sed", .basic)]

/-- The test for a whole path. -/
def pathTest (folds : Bool) (text : Octets) : Reader FindTest := do
  match (← get).dialect.sought folds text with
  | .ok sought => return fits sought
  | .error fault =>
    throw ("failed to compile regular expression '" ++ Octets.toText text ++ "': " ++ fault.message)

/-- The names of users, and of groups, who own nothing here. -/
def strangers : List String :=
  ["daemon", "bin", "sys", "sync", "games", "man", "lp", "mail", "news", "uucp", "proxy",
    "www-data", "backup", "list", "irc", "_apt", "nobody", "nogroup", "adm", "tty", "disk", "staff",
    "users"]

/-- Checks a form of `-printf`: a percent sign needs a letter, and some letters mean nothing. -/
def checkForm : (left : Nat) → Octets → Reader Unit
  | 0, _ | _ + 1, [] => return
  | left + 1, '%' :: rest => do
    let rest := rest.dropWhile fun c ↦ ['-', '+', ' ', '#', '0'].contains c
    let rest := (rest.dropWhile Char.isDigit)
    match rest with
    | [] => throw "error: % at end of format string"
    | c :: rest =>
      if ['A', 'B', 'C', 'T'].contains c then checkForm left (rest.drop 1)
      else
        if !"%abcdDfFgGhHiklmMnpPsStuUyYZ".toList.contains c then
          modify fun reading ↦
            { reading with
              warnings := reading.warnings ++
                ["warning: unrecognized format directive `%".toList ++ [c, '\x27']] }
        checkForm left rest
  | left + 1, '\\' :: c :: rest => do
    if !"abfnrtv0\\c1234567".toList.contains c then
      modify fun reading ↦
        { reading with
          warnings := reading.warnings ++
            ["warning: unrecognized escape `\\".toList ++ [c, '\x27']] }
    checkForm left rest
  | left + 1, _ :: rest => checkForm left rest

/-- The form that is the value of an action. -/
def form (test : String) : Reader Octets := do
  let text ← value test
  checkForm (text.length + 1) text
  return text

/-- The file that is the value of an action. -/
def target (test : String) : Reader (Option Octets) := do
  let file ← value test
  modify fun reading ↦ { reading with targets := reading.targets ++ [file] }
  return some file

/-- The test for files that were changed after a time, which a letter tells how to read. -/
def newerTest (task : Task) (test : String) (letter : Char) : Reader FindTest := do
  let operand ← value test
  if letter = 't' then
    match task.timeOf? operand with
    | some time => return newer time
    | none =>
      throw ("I cannot figure out how to interpret '" ++ Octets.toText operand ++
        "' as a date or time")
  else
    match task.tree.locate task.here (pathOf operand) true with
    | .error error => throw ("'" ++ Octets.toText operand ++ "': " ++ error.reason)
    | .ok location =>
      match task.tree.find? location with
      | some entry => return newer (task.records.of location entry).changed
      | none => throw ("'" ++ Octets.toText operand ++ "': " ++ SystemError.notFound.reason)

/-- Reads a test of a name; none if there is no such test. -/
def named? (task : Task) (test : String) : Reader (Option FindTest) := do
  match test with
  | "-name" => return some (.name (← value test) false)
  | "-iname" => return some (.name (← value test) true)
  | "-path" | "-wholename" => return some (.path (← value test) false)
  | "-ipath" | "-iwholename" => return some (.path (← value test) true)
  | "-lname" => return some (goal (← value test) false)
  | "-ilname" => return some (goal (← value test) true)
  | "-regex" => return some (← pathTest false (← value test))
  | "-iregex" => return some (← pathTest true (← value test))
  | "-regextype" =>
    let name ← value test
    match dialects.find? fun entry ↦ entry.1.toList == name with
    | some (_, dialect) =>
      modify fun reading ↦ { reading with dialect }
      return some (always true)
    | none =>
      let names := dialects.map fun entry ↦ "'" ++ entry.1 ++ "'"
      throw ("Unknown regular expression type '" ++ Octets.toText name ++ "'; valid types are " ++
        String.intercalate ", " names ++ ".")
  | "-type" => return some (← kindTest test (← value test))
  | "-xtype" =>
    match ← kindTest test (← value test) with
    | kind letters => return some (goalKind letters)
    | other => return some other
  | "-empty" => return some isEmpty
  | "-executable" => return some (allows 73)
  | "-readable" => return some (always true)
  | "-writable" => return some (always true)
  | "-perm" => return some (← rightsTest (← value test))
  | "-size" => return some (← sizeTest (← value test))
  | "-links" => return some (names (← bound test))
  | "-inum" => return some (inode (← bound test))
  | "-daystart" =>
    modify fun reading ↦ { reading with isFromDay := true }
    return some (always true)
  | "-mtime" | "-ctime" | "-atime" =>
    let bound ← bound test
    return some (age bound 86400 (← get).isFromDay)
  | "-mmin" | "-cmin" | "-amin" =>
    let bound ← bound test
    return some (age bound 60 (← get).isFromDay)
  | "-fstype" =>
    let _ ← value test
    return some (always false)
  | "-used" => return some (always ((← bound test).admits 0))
  | "-uid" | "-gid" => return some (always ((← bound test).admits 0))
  | "-user" | "-group" =>
    let owner ← value test
    if owner = "root".toList ∨ owner = ['0'] then return some (always true)
    else if owner.all Char.isDigit then return some (always false)
    else if strangers.contains (Octets.toText owner) then return some (always false)
    else
      let kind := if test == "-user" then "user" else "group"
      throw ("'" ++ Octets.toText owner ++ "' is not the name of a known " ++ kind)
  | "-nouser" | "-nogroup" => return some (always false)
  | "-newer" | "-anewer" | "-cnewer" => return some (← newerTest task test 'm')
  | "-samefile" =>
    let operand ← value test
    match task.tree.locate task.here (pathOf operand) false with
    | .error error => throw ("'" ++ Octets.toText operand ++ "': " ++ error.reason)
    | .ok location =>
      match task.tree.find? location with
      | some entry => return some (same location (task.records.of location entry).group)
      | none => throw ("'" ++ Octets.toText operand ++ "': " ++ SystemError.notFound.reason)
  | "-print" => return some (print '\n' none)
  | "-print0" => return some (print '\x00' none)
  | "-printf" => return some (printForm (← form test) none)
  | "-ls" => return some (FindTest.list none)
  | "-fprint" => return some (print '\n' (← target test))
  | "-fprint0" => return some (print '\x00' (← target test))
  | "-fprintf" =>
    let target ← target test
    return some (printForm (← form test) target)
  | "-fls" => return some (FindTest.list (← target test))
  | "-exec" | "-execdir" | "-ok" | "-okdir" => return some (← program test)
  | "-prune" => return some prune
  | "-quit" => return some quit
  | "-true" => return some (always true)
  | "-false" => return some (always false)
  | "-follow" | "-xdev" | "-mount" | "-noleaf" | "-warn" | "-nowarn" |
    "-ignore_readdir_race" | "-noignore_readdir_race" => return some (always true)
  | "-depth" | "-d" =>
    modify fun reading ↦ { reading with isDeepFirst := true }
    return some (always true)
  | "-delete" =>
    modify fun reading ↦ { reading with isDeepFirst := true }
    return some delete
  | "-maxdepth" =>
    let depth ← number test
    modify fun reading ↦ { reading with most := depth }
    return some (always true)
  | "-mindepth" =>
    let depth ← number test
    modify fun reading ↦ { reading with least := depth }
    return some (always true)
  | test =>
    match test.toList with
    | ['-', 'n', 'e', 'w', 'e', 'r', own, letter] =>
      if "aBcm".toList.contains own && "aBcmt".toList.contains letter then
        return some (← newerTest task test letter)
      else throw ("invalid predicate `" ++ test ++ "'")
    | _ => return none

mutual

/-- Reads expressions with commas between them. -/
def series (task : Task) : Nat → Reader FindTest
  | 0 => throw "expression too long"
  | left + 1 => do
    let first ← alternatives task left
    match ← next? with
    | some [','] =>
      advance
      return sequence first (← series task left)
    | _ => return first

/-- Reads alternatives. -/
def alternatives (task : Task) : Nat → Reader FindTest
  | 0 => throw "expression too long"
  | left + 1 => do
    let first ← conjunction task left
    match ← next? with
    | some word =>
      if word = "-o".toList ∨ word = "-or".toList then
        advance
        if (← next?).isNone then
          throw ("expected an expression after '" ++ Octets.toText word ++ "'")
        return either first (← alternatives task left)
      else return first
    | none => return first

/-- Reads tests that have to hold together. -/
def conjunction (task : Task) : Nat → Reader FindTest
  | 0 => throw "expression too long"
  | left + 1 => do
    let first ← single task left
    match ← next? with
    | some word =>
      if word = "-a".toList ∨ word = "-and".toList then
        advance
        if (← next?).isNone then
          throw ("expected an expression after '" ++ Octets.toText word ++ "'")
        return both first (← conjunction task left)
      else if word = "-o".toList ∨ word = "-or".toList ∨ word = [')'] ∨ word = [','] then
        return first
      else return both first (← conjunction task left)
    | none => return first

/-- Reads one test. -/
def single (task : Task) : Nat → Reader FindTest
  | 0 => throw "expression too long"
  | left + 1 => do
    match ← next? with
    | none => throw "expected an expression"
    | some word =>
      advance
      match Octets.toText word with
      | "!" | "-not" =>
        if (← next?).isNone then
          throw ("expected an expression after '" ++ Octets.toText word ++ "'")
        return negated (← single task left)
      | "(" =>
        if (← next?) == some [')'] then
          throw "invalid expression; empty parentheses are not allowed."
        let inner ← series task left
        if (← next?) == some [')'] then
          advance
          return inner
        else
          throw ("invalid expression; I was expecting to find a ')' somewhere but did not see " ++
            "one.")
      | ")" => throw "invalid expression; you have too many ')'"
      | "-o" | "-or" | "-a" | "-and" | "," =>
        throw ("invalid expression; you have used a binary operator '" ++ Octets.toText word ++
          "' with nothing before it.")
      | test =>
        match ← named? task test with
        | some test => return test
        | none =>
          if word.head? == some '-' then throw ("unknown predicate `" ++ test ++ "'")
          else throw ("paths must precede expression: `" ++ test ++ "'")

end

end Reader

/-! ### Applying expressions -/

/-- A file that is found: how deep, by which path, below which operand, and where it lies. -/
structure FoundFile where
  level : Nat
  path : Octets
  root : Octets
  location : Location

/-- What a search has come to. -/
structure Search where
  /-- The task as it is now. -/
  task : Task
  hasFailed : Bool
  /-- The file is not gone into. -/
  isPruned : Bool
  /-- The search is over. -/
  isOver : Bool
  /-- The files for the programs to run in the end, the last one first. -/
  collected : List (Nat × Octets)

/-- The letter for the kind of a file. -/
def soughtLetter (task : Task) (location : Location) (entry : Entry) : Char :=
  let letter := kindLetter (task.records.of location entry) entry
  if letter = '-' then 'f' else letter

/-- The letter for the kind of what a file is or leads to; `lost` if it leads nowhere. -/
def goalLetter (task : Task) (location : Location) (entry : Entry) (lost : Char) : Char :=
  match entry with
  | .link _ =>
    match task.tree.locate [] (pathOf (locationText location)) true with
    | .ok place => ((task.tree.find? place).map (soughtLetter task place)).getD lost
    | .error _ => lost
  | entry => soughtLetter task location entry

/-- A file with all that is known about it in a line. -/
def listedLine (task : Task) (found : FoundFile) (entry : Entry) : Octets :=
  let record := task.records.of found.location entry
  let right := fun (width : Nat) (text : Octets) ↦
    List.replicate (width - text.length) ' ' ++ text
  let field := statField task ⟨found.path, found.location, entry⟩
  let isRecent := record.changed > task.now - 15778476000000 && record.changed ≤ task.now
  let time := task.timeText (if isRecent then "%b %e %H:%M" else "%b %e  %Y").toList record.changed
  let goal := match entry with
    | .link target => " -> ".toList ++ Octets.ofText target.text
    | _ => []
  right 9 (field 'i') ++ ' ' :: right 6 (Number.digits 10 (blocksOf entry)) ++
    ' ' :: kindLetter record entry :: Rights.text record.rights ++ ' ' :: right 3 (field 'h') ++
    " root     root     ".toList ++ right 8 (field 's') ++ ' ' :: time ++ ' ' :: found.path ++
    goal ++ ['\n']

/-- What stands in the place of a letter in a form of `-printf`. -/
def fieldOf (task : Task) (found : FoundFile) (entry : Entry) (letter : Char) : Octets :=
  let record := task.records.of found.location entry
  let directory := found.path.take (found.path.length - (lastName found.path).length)
  match letter with
  | 'p' => found.path
  | 'f' => lastName found.path
  | 'h' => if directory.isEmpty then ['.'] else withoutSlashes directory
  | 'H' => found.root
  | 'P' => (found.path.drop found.root.length).dropWhile (· == '/')
  | 'd' => Number.digits 10 found.level
  | 'm' => Number.digits 8 record.rights
  | 'M' => kindLetter record entry :: Rights.text record.rights
  | 'y' => [soughtLetter task found.location entry]
  | 'Y' => [goalLetter task found.location entry 'N']
  | 'l' => match entry with
    | .link target => Octets.ofText target.text
    | _ => []
  | 't' => task.timeText "%a %b %e %H:%M:%S.%N0 %Y".toList record.changed
  | 'k' => Number.digits 10 (blocksOf entry)
  | 'U' | 'G' => ['0']
  | 'u' | 'g' => "root".toList
  | '%' => ['%']
  | letter => statField task ⟨found.path, found.location, entry⟩
      (if letter = 'n' then 'h' else letter)

/-- What a form of `-printf` comes to. -/
def formed (task : Task) (found : FoundFile) (entry : Entry) : (left : Nat) → Octets → Octets
  | 0, _ | _ + 1, [] => []
  | left + 1, '%' :: rest =>
    let isLeft := rest.head? == some '-'
    let rest := if isLeft then rest.drop 1 else rest
    let digits := rest.takeWhile Char.isDigit
    match rest.drop digits.length with
    | 'A' :: letter :: after | 'C' :: letter :: after | 'T' :: letter :: after =>
      let form := match letter with
        | '@' => "%s.%N0".toList
        | 'S' => "%S.%N0".toList
        | 'T' | 'X' => "%H:%M:%S.%N0".toList
        | '+' => "%Y-%m-%d+%H:%M:%S.%N0".toList
        | letter => ['%', letter]
      task.timeText form (task.records.of found.location entry).changed ++
        formed task found entry left after
    | letter :: after =>
      let shown := if "%bdDfFgGhHiklmMnpPstuUyY".toList.contains letter then
          fieldOf task found entry letter
        else ['%', letter]
      let gap := List.replicate (Text.digitsValue 10 digits - shown.length) ' '
      (if isLeft then shown ++ gap else gap ++ shown) ++ formed task found entry left after
    | [] => ['%']
  | left + 1, '\\' :: c :: rest =>
    let known := [('n', '\n'), ('t', '\t'), ('\\', '\\'), ('a', '\x07'),
      ('b', '\x08'), ('f', '\x0c'), ('r', '\x0d'), ('v', '\x0b')]
    let digits := ((c :: rest).take 3).takeWhile Number.isOctal
    if c = 'c' then []
    else if !digits.isEmpty then
      Char.ofNat (Text.digitsValue 8 digits % 256) ::
        formed task found entry left ((c :: rest).drop digits.length)
    else
      match known.lookup c with
      | some meant => meant :: formed task found entry left rest
      | none => '\\' :: c :: formed task found entry left rest
  | left + 1, c :: rest => c :: formed task found entry left rest

/-- A test that does nothing holds of a file. -/
def holdsOf (task : Task) (found : FoundFile) (entry : Entry) : FindTest → Bool
  | always holds => holds
  | name pattern folds =>
    Pattern.fits pattern folds (if found.path.all (· == '/') then ['/'] else lastName found.path)
  | path pattern folds => Pattern.fits pattern folds found.path
  | goal pattern folds =>
    match entry with
    | .link target => Pattern.fits pattern folds (Octets.ofText target.text)
    | _ => false
  | fits sought =>
    (sought.endsAt (.start found.path)).any fun reached ↦ reached.place.rest.isEmpty
  | goalKind letters => letters.contains (goalLetter task found.location entry 'l')
  | inode bound =>
    bound.admits ((Number.plain? (statField task ⟨found.path, found.location, entry⟩ 'i')).getD 0)
  | kind letters => letters.contains (soughtLetter task found.location entry)
  | isEmpty =>
    match entry with
    | .directory => !hasEntries task.tree found.location
    | .file octets _ => octets.isEmpty
    | .link _ => false
  | allows bits =>
    match entry with
    | .link _ => (task.tree.entryAt [] (pathOf (locationText found.location))).toOption.any fun
        | .file _ isExecutable => isExecutable
        | _ => true
    | _ => (task.records.of found.location entry).rights &&& bits != 0
  | rights test mode =>
    let held := (task.records.of found.location entry).rights
    let wanted := (Rights.after? mode (entry == .directory) 0 0).getD 0
    match test with
    | .exactly => held == wanted
    | .all => held &&& wanted == wanted
    | .any => wanted == 0 || held &&& wanted != 0
  | size bound unit => bound.admits ((sizeOf entry + unit - 1) / unit : Nat)
  | names bound => bound.admits (namesOf task.tree task.records found.location entry)
  | age bound unit isFromDay =>
    let now := if isFromDay then (task.now.fdiv 86400000000 + 1) * 86400000000 else task.now
    let passed := now - (task.records.of found.location entry).changed
    bound.admits (passed.fdiv (1000000 * unit))
  | newer time => (task.records.of found.location entry).changed > time
  | same location group =>
    found.location == location ||
      (group != 0 && (task.records.of found.location entry).group == group)
  | _ => true

/-- Removes the file of an action. -/
def removal (found : FoundFile) (entry : Entry) (search : Search) (next : Bool → Search → Errand) :
    Errand :=
  let tree := search.task.tree
  if found.path == ['.'] then next true search
  else if entry == .directory && hasEntries tree found.location then
    .write 2 (search.task.message ("cannot delete '".toList ++ found.path ++
      "': Directory not empty".toList)) (next false { search with hasFailed := true })
  else
    let tree := tree.eraseBelow found.location
    .store tree (next true { search with task := { search.task with tree } })

/-- The program of an action with the path of a file in the place of the holders. -/
def orderFor (task : Task) (found : FoundFile) (words : List Octets) (isThere : Bool) : Order :=
  let shown := if isThere then "./".toList ++ lastName found.path else found.path
  let directory := found.path.take (found.path.length - (lastName found.path).length)
  let words := words.map fun word ↦
    Errand.substituted "\x7b\x7d".toList shown (word.length + 1) word
  { task.order "'" words with place := if isThere && !directory.isEmpty then directory else none }

/-- Shows a text, in a file if there is one given. -/
def showing (text : Octets) (target : Option Octets) (search : Search)
    (next : Bool → Search → Errand) : Errand :=
  match target with
  | none => .write 1 text (next true search)
  | some file =>
    if file = "/dev/stdout".toList then .write 1 text (next true search)
    else if file = "/dev/stderr".toList then .write 2 text (next true search)
    else
      let held := match search.task.tree.read search.task.here (pathOf file) with
        | .ok octets => Octets.ofBytes octets
        | .error _ => []
      match search.task.store search.task.tree file (held ++ text) with
      | .ok tree => .store tree (next true { search with task := { search.task with tree } })
      | .error _ => next true search

/-- Applies an expression to a file and goes on with whether it holds. -/
def check (found : FoundFile) (entry : Entry) :
    FindTest → Search → (Bool → Search → Errand) → Errand
  | print ending target, search, next => showing (found.path ++ [ending]) target search next
  | printForm form target, search, next =>
    showing (formed search.task found entry (form.length + 1) form) target search next
  | list target, search, next =>
    showing (listedLine search.task found entry) target search next
  | delete, search, next => removal found entry search next
  | prune, search, next => next true { search with isPruned := true }
  | quit, search, next => next true { search with isOver := true }
  | run words isThere asks, search, next =>
    let started := Errand.run (orderFor search.task found words isThere) fun outcome task ↦
      next (outcome.status == some 0) { search with task }
    if asks then
      let agrees := search.task.input.head?.any fun c ↦ c == 'y' || c == 'Y'
      .write 2 ("< ".toList ++ words.headD [] ++ " ... ".toList ++ found.path ++ " > ? ".toList)
        (if agrees then started else next false search)
    else started
  | collect index, search, next =>
    next true { search with collected := (index, found.path) :: search.collected }
  | negated test, search, next => check found entry test search fun holds ↦ next !holds
  | both first second, search, next =>
    check found entry first search fun holds search ↦
      if holds && !search.isOver then check found entry second search next else next holds search
  | either first second, search, next =>
    check found entry first search fun holds search ↦
      if holds || search.isOver then next holds search else check found entry second search next
  | sequence first second, search, next =>
    check found entry first search fun holds search ↦
      if search.isOver then next holds search else check found entry second search next
  | test, search, next => next (holdsOf search.task found entry test) search

end FindTest

open FindTest (FoundFile Search Reading)

/-- What is to be done about a file: going into it, or only applying the expression to it. -/
inductive Visit
  | enters (found : FoundFile)
  | tests (found : FoundFile)

/-- Goes through files, and then through those below them. -/
def visiting (test : FindTest) (reading : Reading) (follows : Bool) (next : Search → Errand) :
    (left : Nat) → List Visit → Search → Errand
  | 0, _, search => next search
  | _ + 1, [], search => next search
  | left + 1, visit :: rest, search =>
    let entryAt := fun (found : FoundFile) ↦ search.task.tree.find? found.location
    let inside := fun (found : FoundFile) (search : Search) ↦
      if found.level ≥ reading.most || search.task.tree.find? found.location != some .directory
      then []
      else (search.task.tree.namesBelow found.location).map fun name ↦
        let location := found.location ++ [name]
        let location :=
          if follows then
            (search.task.tree.locate [] (pathOf (locationText location)) true).toOption.getD
              location
          else location
        Visit.enters ⟨found.level + 1, below found.path (Octets.ofText name), found.root, location⟩
    if search.isOver then next search
    else
      match visit with
      | .enters found =>
        match entryAt found with
        | none => visiting test reading follows next left rest search
        | some entry =>
          if reading.isDeepFirst then
            visiting test reading follows next left
              (inside found search ++ .tests found :: rest) search
          else if found.level < reading.least then
            visiting test reading follows next left (inside found search ++ rest) search
          else
            test.check found entry { search with isPruned := false } fun _ search ↦
              visiting test reading follows next left
                ((if search.isPruned then [] else inside found search) ++ rest) search
      | .tests found =>
        match entryAt found with
        | none => visiting test reading follows next left rest search
        | some entry =>
          if found.level < reading.least then
            visiting test reading follows next left rest search
          else
            test.check found entry search fun _ search ↦
              visiting test reading follows next left rest search

/-- Has the programs run that wait for all files. -/
def running (search : Search) : (index : Nat) → List (List Octets) → Errand
  | _, [] => .done (if search.hasFailed then 1 else 0)
  | index, words :: rest =>
    let found := (search.collected.reverse.filter (·.1 == index)).map (·.2)
    if found.isEmpty then running search (index + 1) rest
    else
      .run (search.task.order "'" (words ++ found)) fun outcome task ↦
        let hasFailed := search.hasFailed || outcome.status != some 0
        running { search with task, hasFailed } (index + 1) rest

/-- How many files a search goes through at most. -/
def visitLimit : Nat := 100000

/-- Searches one operand after the other. -/
def operandsSearched (test : FindTest) (reading : Reading) (follows followsOperands : Bool) :
    List Octets → Search → Errand
  | [], search => running search 0 reading.collected
  | path :: rest, search =>
    let isFollowed := follows || followsOperands
    match search.task.tree.locate search.task.here (pathOf path) isFollowed with
    | .error error =>
      .write 2 (search.task.message ('\x27' :: path ++ ("': " ++ error.reason).toList))
        (operandsSearched test reading follows followsOperands rest
          { search with hasFailed := true })
    | .ok location =>
      visiting test reading follows (operandsSearched test reading follows followsOperands rest)
        visitLimit [.enters ⟨0, path, path, location⟩] search

/-- What `find` does. -/
def find (task : Task) : Errand :=
  let isWay := fun (word : Octets) ↦
    [['-', 'L'], ['-', 'H'], ['-', 'P']].contains word ||
      (['-', 'O'].isPrefixOf word && (word.drop 2).all Char.isDigit)
  let ways := task.arguments.takeWhile isWay
  let words := task.arguments.drop ways.length
  let startsTests := fun (word : Octets) ↦
    (word.head? == some '-' && word.length > 1) || word == ['('] || word == ['!']
  let paths := words.takeWhile fun word ↦ !startsTests word
  let words := words.drop paths.length
  let paths := if paths.isEmpty then [['.']] else paths
  let read : FindTest.Reader FindTest :=
    if words.isEmpty then return .print '\n' none
    else FindTest.Reader.series task (8 * words.length + 16)
  match read.run ⟨words, 0, 1000, false, [], .editor, false, [], []⟩ with
  | .error message => .ofEffect (task.complain 1 (Octets.ofText message))
  | .ok (test, reading) =>
    if !reading.words.isEmpty then
      .ofEffect (task.complain 1
        "you have too many ')'".toList)
    else
      let test := if test.acts then test else .both test (.print '\n' none)
      let way := (ways.filter fun word ↦ word.length == 2).getLast?
      -- The files that are written to are there from the start.
      let tree := reading.targets.foldl (fun tree file ↦
        if ["/dev/stdout".toList, "/dev/stderr".toList].contains file then tree
        else (task.store tree file []).toOption.getD tree) task.tree
      let search := operandsSearched test reading (way == some ['-', 'L']) (way == some ['-', 'H'])
        paths ⟨{ task with tree }, false, false, false, []⟩
      let search := if reading.targets.isEmpty then search else .store tree search
      .writeAll (reading.warnings.map fun warning ↦ (2, task.message warning)) search

end Scaffold.Shell.Utility
