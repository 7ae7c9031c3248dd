import Scaffold.Files.Change
import Scaffold.Shell.Utility.Amount
import Scaffold.Shell.Utility.Lines
import Scaffold.Shell.Utility.Timing

/-!
# Making and removing files

Utilities that make and remove files and directories, and those that change their times, lengths and
rights. They go through their operands one after the other, and what one of them did stays when a
later one fails (`Work`).

A pipe has a name among the files, too; what is written to it is read from it. `mkfifo` makes pipes,
and `mknod` makes one if it is asked for a file of that kind.
-/

set_option autoImplicit false

namespace Scaffold.Shell.Utility

open Text (Octets)

/-- A message about an operand that something could not be done to. -/
def aboutOperand (what : String) (operand : Octets) (error : SystemError) : Octets :=
  (what ++ " ").toList ++ Quoting.shell operand ++ (": " ++ error.reason).toList

/-- An operand without slashes at its end. -/
def withoutSlashes (operand : Octets) : Octets :=
  let bare := (operand.reverse.dropWhile (· == '/')).reverse
  if bare.isEmpty && !operand.isEmpty then ['/'] else bare

/-- The last name of a path. -/
def lastName (path : Octets) : Octets :=
  ((withoutSlashes path).reverse.takeWhile (· != '/')).reverse

/-- A path below a directory. -/
def below (directory name : Octets) : Octets :=
  if directory.getLast? = some '/' then directory ++ name else directory ++ '/' :: name

/-- A text in quotes. -/
def inQuotes (text : Octets) : Octets :=
  Quoting.shell text

/-- Something lies below a location. -/
def hasEntries (tree : FileTree) (location : Location) : Bool :=
  tree.entries.any fun entry ↦ location.isPrefixOf entry.1 && entry.1 != location

/-! ### Work on one operand after the other -/

/-- The files and their records so far, what was written, the last text first, the input that is
left, and whether something failed. -/
structure Work where
  tree : FileTree
  records : Records
  written : List (Nat × Octets)
  input : Octets
  hasFailed : Bool

namespace Work

/-- Nothing is done yet. -/
def start (task : Task) : Work :=
  ⟨task.tree, [], [], task.input, false⟩

/-- Writes a line. -/
def say (work : Work) (text : Octets) : Work :=
  { work with written := (1, text ++ ['\n']) :: work.written }

/-- Writes a line if that is asked for. -/
def sayIf (work : Work) (isAsked : Bool) (text : Octets) : Work :=
  if isAsked then work.say text else work

/-- Complains. -/
def fail (work : Work) (task : Task) (text : Octets) : Work :=
  { work with written := (2, task.message text) :: work.written, hasFailed := true }

/-- Changes the files. -/
def withTree (work : Work) (tree : FileTree) : Work :=
  { work with tree }

/-- What is known about an entry; a new one is of this time. -/
def recordOf (work : Work) (task : Task) (location : Location) (entry : Entry) : FileRecord :=
  match work.records.lookup location with
  | some record => record
  | none =>
    if (task.tree.find? location).isSome then task.records.of location entry
    else ⟨task.now, usualRights entry task.mask, 0, false⟩

/-- Sets a record. -/
def record (work : Work) (location : Location) (record : FileRecord) : Work :=
  { work with records := (location, record) :: work.records }

/-- Asks a question, and reads a line for the answer. -/
def ask (work : Work) (task : Task) (question : Octets) : Work × Bool :=
  let text := Octets.ofText (task.name ++ ": ") ++ question ++ ['?', ' ']
  let line := work.input.takeWhile (· != '\n')
  let input := work.input.drop (line.length + 1)
  ({ work with written := (2, text) :: work.written, input },
    line.head? == some 'y' || line.head? == some 'Y')

/-- The end of the work. -/
def finish (work : Work) : Effect :=
  { status := if work.hasFailed then 1 else 0
    written := work.written.reverse
    input := work.input
    tree := some work.tree
    records := work.records.reverse
    duration := 0 }

end Work

/-- Does the work for one operand after the other. -/
def working (task : Task) (operands : List Octets) (step : Work → Octets → Work) : Effect :=
  (operands.foldl step (Work.start task)).finish

/-! ### Times -/

/-- Which of the times of a file is meant. -/
inductive TimeKind
  | access
  | change
  deriving DecidableEq, Repr

/-- The words for the times of a file. -/
def timeWords : List (String × TimeKind) :=
  [("atime", .access), ("access", .access), ("use", .access), ("mtime", .change),
    ("modify", .change)]

/-- The time that options of `touch` give, or what is wrong with them. -/
def touchTime (task : Task) (options : Options) : Except Effect Int :=
  let wrong := fun (text : Octets) ↦
    Except.error (task.complain 1 ("invalid date format ".toList ++ inQuotes text))
  let isDouble := options.has 't' && (options.has 'd' || options.has 'r')
  if isDouble then .error (task.misuse 1 "cannot specify times from more than one source")
  else
    let reference : Except Effect Int :=
      match options.value? 'r' with
      | none => .ok task.now
      | some path =>
        match task.tree.locate task.here (pathOf path) (!options.has 'h') with
        | .error error =>
          .error (task.complain 1 (aboutOperand "failed to get attributes of" path error))
        | .ok location =>
          let record? := (task.tree.find? location).map (task.records.of location)
          .ok ((record?.map FileRecord.changed).getD task.now)
    match reference, options.value? 'd', options.value? 't' with
    | .error effect, _, _ => .error effect
    | .ok now, some text, _ => (({ task with now }.timeOf? text).map Except.ok).getD (wrong text)
    | .ok now, none, some text =>
      match Calendar.stamp? (now.fdiv 1000000) text with
      | some time => .ok (time * 1000000)
      | none => wrong text
    | .ok now, none, none => .ok now

/-- Sets the time of one file, or makes it. -/
def touchOperand (task : Task) (options : Options) (isChange : Bool) (time : Int) (work : Work)
    (operand : Octets) : Work :=
  let endsInSlash := operand.getLast? == some '/'
  let refuse := fun (error : SystemError) ↦
    if options.has 'c' && error == .notFound then work
    else
      let what := if endsInSlash || options.has 'h' then "setting times of" else "cannot touch"
      work.fail task (aboutOperand what operand error)
  let place :=
    if options.has 'h' then work.tree.locate task.here (pathOf operand) false
    else work.tree.locateWritable FileTree.linkLimit task.here (pathOf operand)
  match place with
  | .error .isDirectory | .error .notFound => refuse .notFound
  | .error error => refuse error
  | .ok location =>
    match work.tree.find? location with
    | some entry =>
      if !isChange then work
      else work.record location { work.recordOf task location entry with changed := time }
    | none =>
      if options.has 'c' || options.has 'h' then refuse .notFound
      else
        let entry := Entry.file [] false
        (work.withTree (work.tree.put location entry)).record location
          ⟨if isChange then time else task.now, usualRights entry task.mask, 0, false⟩

/-- Makes files that are not there, and sets the times of those that are. -/
def touch : Utility :=
  ofOptions "touch" ⟨['c', 'a', 'm', 'f', 'h'], ['d', 't', 'r', '!'],
    [("no-create", 'c'), ("date", 'd'), ("reference", 'r'), ("no-dereference", 'h'),
      ("time", '!')], false⟩ 1
    fun task options ↦
      match (options.values '!').mapM (choice "--time" timeWords) with
      | .error text => task.misuse 1 text
      | .ok kinds =>
        let isAccess := options.has 'a' || kinds.contains .access
        let isChange := !isAccess || options.has 'm' || kinds.contains .change
        match touchTime task options with
        | .error effect => effect
        | .ok time =>
          if options.operands.isEmpty then task.misuse 1 "missing file operand"
          else working task options.operands (touchOperand task options isChange time)

/-! ### Removing -/

/-- The name of the kind of a file. -/
def kindName (record : FileRecord) : Entry → String
  | .directory => "directory"
  | .link _ => "symbolic link"
  | .file octets _ =>
    if record.isPipe then "fifo"
    else if octets.isEmpty then "regular empty file" else "regular file"

/-- Removes what lies at a location, and what is below it before; `asks` before each step, and
`tells` after it. Fewer than `left` directories are one in the other. -/
def removed (task : Task) (asks tells : Bool) :
    (left : Nat) → Octets → Location → Work → Work
  | 0, _, _, work => work
  | left + 1, path, location, work =>
    match work.tree.find? location with
    | none => work
    | some .directory =>
      let names := work.tree.namesBelow location
      let (work, goesOn) :=
        if asks && !names.isEmpty then
          work.ask task ("descend into directory ".toList ++ inQuotes path)
        else (work, true)
      if !goesOn then work
      else
        let work := names.foldl (fun work name ↦
          removed task asks tells left (below path (Octets.ofText name)) (location ++ [name]) work)
          work
        let (work, goesOn) :=
          if asks then work.ask task ("remove directory ".toList ++ inQuotes path)
          else (work, true)
        if !goesOn then work
        else if hasEntries work.tree location then
          work.fail task ("cannot remove ".toList ++ inQuotes path ++
            ": Directory not empty".toList)
        else
          (work.withTree (work.tree.erase location)).sayIf tells
            ("removed directory ".toList ++ inQuotes path)
    | some entry =>
      let (work, goesOn) :=
        if asks then
          let kind := kindName (work.recordOf task location entry) entry
          work.ask task (("remove " ++ kind ++ " ").toList ++ inQuotes path)
        else (work, true)
      if !goesOn then work
      else
        (work.withTree (work.tree.erase location)).sayIf tells
          ("removed ".toList ++ inQuotes path)

/-- Removes one operand. -/
def removeOperand (task : Task) (options : Options) (asks : Bool) (work : Work)
    (operand : Octets) : Work :=
  let isForced := options.has 'f' && !asks
  let isDeep := options.has 'r' || options.has 'R'
  let refuse := fun (error : SystemError) ↦
    work.fail task (aboutOperand "cannot remove" operand error)
  let last := lastName operand
  let isLink := (work.tree.locate task.here (pathOf (withoutSlashes operand)) false).toOption.any
    fun location ↦ (work.tree.find? location).any (· matches .link _)
  if operand.getLast? = some '/' && isLink then
    refuse (if isDeep then .notDirectory else .isDirectory)
  else match work.tree.locate task.here (pathOf operand) false with
  | .error .notFound => if isForced then work else refuse .notFound
  | .error .notDirectory => if isForced then work else refuse .notDirectory
  | .error error => refuse error
  | .ok location =>
    match work.tree.find? location with
    | none => if isForced then work else refuse .notFound
    | some .directory =>
      if isDeep && (last = ['.'] ∨ last = ['.', '.']) then
        work.fail task ("refusing to remove '.' or '..' directory: skipping ".toList ++
          inQuotes operand)
      else if isDeep then
        if location = [] then
          (work.fail task "it is dangerous to operate recursively on '/'".toList).fail task
            "use --no-preserve-root to override this failsafe".toList
        else if asks || options.has 'v' then
          removed task asks (options.has 'v') 1000 operand location work
        else work.withTree (work.tree.eraseBelow location)
      else if options.has 'd' then
        if hasEntries work.tree location then
          work.fail task ("cannot remove ".toList ++ inQuotes operand ++
            ": Directory not empty".toList)
        else removed task asks (options.has 'v') 1 operand location work
      else refuse .isDirectory
    | some _ => removed task asks (options.has 'v') 1 operand location work

/-- When a question comes before something is removed. -/
inductive Prompting
  | never
  | once
  | always
  deriving DecidableEq, Repr

/-- The words for when a question comes. -/
def promptWords : List (String × Prompting) :=
  [("never", .never), ("no", .never), ("none", .never), ("once", .once), ("always", .always),
    ("yes", .always)]

/-- An option as a letter: a word for when a question comes has one too. -/
def promptLetter : Char × Octets → Except String (Char × Octets)
  | ('\x02', word) =>
    if word.isEmpty then .ok ('i', [])
    else
      (choice "--interactive" promptWords word).map fun prompting ↦
        match prompting with
        | .never => ('\x01', [])
        | .once => ('I', [])
        | .always => ('i', [])
  | option => .ok option

/-- Removes files, for arguments that are options and operands. -/
def plainRm : Utility :=
  ofOptions "rm" ⟨['r', 'R', 'f', 'i', 'I', 'd', 'v', '\x01', '\x02'], [],
    [("recursive", 'r'), ("force", 'f'), ("dir", 'd'), ("verbose", 'v'), ("interactive", '\x02'),
      ("one-file-system", '\x01'), ("preserve-root", '\x01'), ("no-preserve-root", '\x01')],
    false⟩ 1
    fun task options ↦
      match options.found.mapM promptLetter with
      | .error text => task.misuse 1 text
      | .ok found =>
      let options := { options with found }
      let mode := (options.found.reverse.find? fun entry ↦
        ['f', 'i', 'I'].contains entry.1).map (·.1)
      let isDeep := options.has 'r' || options.has 'R'
      let count := options.operands.length
      if options.operands.isEmpty then
        if options.has 'f' then task.finish 0 [] else task.misuse 1 "missing operand"
      else if mode = some 'I' && (count > 3 || isDeep) then
        let text := ("remove " ++ toString count ++
          (if count = 1 then " argument" else " arguments") ++
          if isDeep then " recursively" else "").toList
        let (work, goesOn) := (Work.start task).ask task text
        if !goesOn then work.finish
        else (options.operands.foldl (removeOperand task options false) work).finish
      else working task options.operands (removeOperand task options (mode == some 'i'))

/-- Removes files. Where there is a wrong option, a file of such a name may have been meant. -/
def rm : Utility :=
  { plainRm with
    run := fun task ↦
      let effect := plainRm.run task
      let isMisuse := effect.written.any fun (_, text) ↦
        "invalid option".toList.isPrefixOf (text.drop 4)
      let meant? := task.arguments.find? fun word ↦
        word.head? == some '-' && word.length > 1 &&
          (task.tree.locate task.here (pathOf word) false).toOption.isSome
      match isMisuse, meant? with
      | true, some word =>
        let (first, rest) := (effect.written.flatMap (·.2)).span (· != '\n')
        let hint := "\nTry 'rm ./".toList ++ word ++ "' to remove the file '".toList ++ word ++
          "'.".toList
        { effect with written := [(2, first ++ hint ++ rest)] }
      | _, _ => effect }

/-- Removes empty directories. -/
def rmdir : Utility :=
  ofOptions "rmdir" ⟨['p', 'v', '!'], [],
    [("parents", 'p'), ("verbose", 'v'), ("ignore-fail-on-non-empty", '!')], false⟩ 1
    fun task options ↦
      let remove := fun (what : String) (work : Work) (operand : Octets) ↦
        let work := work.sayIf (options.has 'v')
          ("rmdir: removing directory, ".toList ++ inQuotes operand)
        let refuse := fun (reason : String) ↦
          work.fail task (("failed to remove " ++ what).toList ++ inQuotes operand ++
            (": " ++ reason).toList)
        match work.tree.locate task.here (pathOf operand) false with
        | .error error => refuse error.reason
        | .ok location =>
          match work.tree.find? location with
          | some .directory =>
            if lastName operand = ['.'] then refuse "Invalid argument"
            else if hasEntries work.tree location then
              if options.has '!' then work else refuse "Directory not empty"
            else work.withTree (work.tree.erase location)
          | none => refuse SystemError.notFound.reason
          | _ => refuse SystemError.notDirectory.reason
      if options.operands.isEmpty then task.misuse 1 "missing operand"
      else
        working task options.operands fun work operand ↦
          if options.has 'p' then
            let parts := Text.pieces (· == '/') (withoutSlashes operand)
            let paths := (List.range parts.length).map fun index ↦
              ((parts.take (parts.length - index)).intersperse ['/']).flatten
            ((paths.filter (!·.isEmpty)).foldl (fun (state : Work × Bool) path ↦
              if !state.2 then state
              else
                let what := if path = withoutSlashes operand then "" else "directory "
                let next := remove what state.1 path
                (next, next.written.countP (·.1 == 2) == state.1.written.countP (·.1 == 2)))
              (work, true)).1
          else remove "" work operand

/-! ### Making -/

/-- Makes a directory with rights of its own if a mode gives them. -/
def made (task : Task) (work : Work) (location : Location) (mode : Option Octets) : Work :=
  let work := work.withTree (work.tree.put location .directory)
  match mode.bind fun mode ↦ Rights.after? mode true task.mask 511 with
  | some rights => work.record location ⟨task.now, rights, 0, false⟩
  | none => work

/-- Makes a directory and those on the way to it. -/
def madeParents (task : Task) (options : Options) (work : Work) (operand : Octets) : Work :=
  let parts := Text.pieces (· == '/') (withoutSlashes operand)
  let paths := ((List.range parts.length).map fun index ↦
    ((parts.take (index + 1)).intersperse ['/']).flatten).filter (!·.isEmpty)
  (paths.foldl (fun (state : Work × Bool) path ↦
    let (work, goesOn) := state
    if !goesOn then state
    else
      match work.tree.locate task.here (pathOf path) true with
      | .ok location =>
        if work.tree.hasDirectory location then state
        else
          let error := if path = withoutSlashes operand then SystemError.exists else .notDirectory
          (work.fail task (aboutOperand "cannot create directory" path error), false)
      | .error .notFound =>
        match work.tree.locateNew task.here (pathOf path) with
        | .ok location =>
          if (work.tree.find? location).isSome then
            (work.fail task (aboutOperand "cannot create directory" path .exists), false)
          else
            let mode := if path = withoutSlashes operand then options.value? 'm' else none
            ((made task work location mode).sayIf (options.has 'v')
              ("mkdir: created directory ".toList ++ inQuotes path), true)
        | .error error =>
          (work.fail task (aboutOperand "cannot create directory" path error), false)
      | .error error =>
        (work.fail task (aboutOperand "cannot create directory" path error), false))
    (work, true)).1

/-- Makes directories. -/
def mkdir : Utility :=
  ofOptions "mkdir" ⟨['p', 'v', 'Z'], ['m'],
    [("parents", 'p'), ("verbose", 'v'), ("mode", 'm')], false⟩
    1 fun task options ↦
      let isWrong := fun (mode : Octets) ↦ (Rights.after? mode true task.mask 511).isNone
      if options.operands.isEmpty then task.misuse 1 "missing operand"
      else if (options.value? 'm').any isWrong then
        task.complain 1 ("invalid mode ".toList ++ Quoting.plain ((options.value? 'm').getD []))
      else
        working task options.operands fun work operand ↦
          let refuse := fun (error : SystemError) ↦
            work.fail task (aboutOperand "cannot create directory" operand error)
          let path := pathOf (withoutSlashes operand)
          if operand.isEmpty then refuse .notFound
          else if options.has 'p' then madeParents task options work operand
          else if work.tree.pathExists task.here path then refuse .exists
          else
            match work.tree.locateNew task.here path with
            | .ok location =>
              if (work.tree.find? location).isSome then refuse .exists
              else
                (made task work location (options.value? 'm')).sayIf (options.has 'v')
                  ("mkdir: created directory ".toList ++ inQuotes operand)
            | .error error =>
              let isMissing := !work.tree.pathExists task.here path.parent
              refuse (if isMissing && error == .notDirectory then .notFound else error)

/-- A name in which capital X in front of an ending gives way to digits; none if there are fewer
than three. -/
def filledName? (template ending digits : Octets) : Option Octets :=
  let body := template.take (template.length - ending.length)
  let tail := body.reverse.dropWhile fun c ↦ c != 'X' && c != '/'
  let marks := (tail.takeWhile (· == 'X')).length
  let after := body.drop tail.length ++ ending
  let digits := List.replicate (marks - digits.length) '0' ++ digits
  if marks < 3 then none
  else some (body.take (tail.length - marks) ++ digits.drop (digits.length - marks) ++ after)

/-- The letters and digits of names that are made up. -/
def nameLetters : List Char :=
  "0123456789abcdefghijklmnopqrstuvwxyzABCDEFGHIJKLMNOPQRSTUVWXYZ".toList

/-- So many letters and digits that a number stands for. -/
def nameText : (count value : Nat) → Octets
  | 0, _ => []
  | count + 1, value => nameLetters.getD (value % 62) '0' :: nameText count (value / 62)

/-- Makes a new file or directory. -/
def mktemp : Utility :=
  ofOptions "mktemp" ⟨['d', 'u', 'q', 't', 'V'], ['p', '!'],
    [("directory", 'd'), ("dry-run", 'u'), ("quiet", 'q'), ("tmpdir", 'p'), ("suffix", '!')],
    false⟩ 1
    fun task options ↦
      let temporary := (task.settings.lookup "TMPDIR".toList).getD "/tmp".toList
      let template := options.operands.headD "tmp.XXXXXXXXXX".toList
      let ending := (options.value? '!').getD []
      let directory? :=
        match options.value? 'p' with
        | some directory => some (if directory.isEmpty then temporary else directory)
        | none => if options.operands.isEmpty || options.has 't' then some temporary else none
      let path := (directory?.map fun directory ↦ below directory template).getD template
      let refuse := fun (text : Octets) ↦
        if options.has 'q' then task.finish 1 [] else task.complain 1 text
      let seed := (task.now.toNat + 7919 * task.tree.entries.length) * 40503
      let candidates := (List.range 1000).filterMap fun index ↦
        filledName? (path ++ ending) ending
          (nameText 40 ((seed + 7919 * index) * 6364136223846793005))
      let isFree := fun (path : Octets) ↦ !(task.tree.pathExists task.here (pathOf path))
      let endsInMark := template.getLast? == some 'X'
      if options.operands.length > 1 then task.misuse 1 "too many templates"
      else if options.has '!' && !endsInMark then
        task.complain 1 ("with --suffix, template ".toList ++ inQuotes template ++
          " must end in X".toList)
      else if ending.contains '/' then
        task.complain 1 ("invalid suffix ".toList ++ inQuotes ending ++
          ", contains directory separator".toList)
      else if candidates.isEmpty then
        task.complain 1 ("too few X's in template ".toList ++ inQuotes template)
      else if options.has 't' && template.contains '/' then
        task.complain 1 ("invalid template, ".toList ++ inQuotes template ++
          ", contains directory separator".toList)
      else if options.has 'p' && template.head? == some '/' then
        task.complain 1 ("invalid template, ".toList ++ inQuotes template ++
          "; with --tmpdir, it may not be absolute".toList)
      else
        match candidates.find? isFree with
        | none => refuse (aboutOperand "failed to create file via template" path .exists)
        | some name =>
          if options.has 'u' then task.finish 0 (name ++ ['\n'])
          else
            match task.tree.locateNew task.here (pathOf name) with
            | .ok location =>
              let entry := if options.has 'd' then Entry.directory else .file [] false
              let rights := if options.has 'd' then 448 else 384
              { task.finish 0 (name ++ ['\n']) with
                tree := some (task.tree.put location entry)
                records := [(location, ⟨task.now, rights, 0, false⟩)] }
            | .error _ =>
              let kind := if options.has 'd' then "directory" else "file"
              refuse (aboutOperand ("failed to create " ++ kind ++ " via template")
                (path ++ ending) .notFound)

/-! ### Lengths and rights -/

/-- How a size is meant. -/
inductive SizeChange
  | to
  | by
  | atMost
  | atLeast
  | down
  | up
  deriving DecidableEq, Repr

/-- The sizes that `truncate` reads. -/
def lengthForm : AmountForm :=
  { AmountForm.counts with
    isSigned := true, units := "EgGkKmMPQRtTYZ0".toList, least := -Number.greatest - 1
    greatest := Number.greatest }

/-- The change that a size stands for, and the size. -/
def sizeChange (text : Octets) : Except Octets (SizeChange × Int) := do
  let text := text.dropWhile Char.isWhitespace
  let marks : List (Char × SizeChange) :=
    [('<', .atMost), ('>', .atLeast), ('/', .down), ('%', .up)]
  let (change, rest) :=
    match text with
    | c :: rest =>
      match marks.lookup c with
      | some change => (change, rest.dropWhile Char.isWhitespace)
      | none => (if c = '+' ∨ c = '-' then .by else .to, text)
    | [] => (.to, [])
  let isSigned := rest.head? == some '+' || rest.head? == some '-'
  if isSigned && change != .by then throw "multiple relative modifiers specified".toList
  match lengthForm.read rest with
  | .ok size =>
    if size = 0 ∧ (change = .down ∨ change = .up) then throw "division by zero".toList
    return (change, size)
  | .error fault => throw ("Invalid number: ".toList ++ inQuotes rest ++ fault.addition.toList)

/-- The length after a change by a size. -/
def SizeChange.apply (change : SizeChange) (size : Int) (length : Nat) : Nat :=
  match change with
  | .to => size.toNat
  | .by => (length + size).toNat
  | .atMost => min length size.toNat
  | .atLeast => max length size.toNat
  | .down => length / size.toNat * size.toNat
  | .up => (length + size.toNat - 1) / size.toNat * size.toNat

/-- Makes files longer or shorter. -/
def truncate : Utility :=
  ofOptions "truncate" ⟨['c', 'o'], ['s', 'r'],
    [("no-create", 'c'), ("size", 's'), ("reference", 'r'), ("io-blocks", 'o')], false⟩ 1
    fun task options ↦
    match (options.value? 's').mapM sizeChange, options.value? 'r' with
    | .error text, _ => task.complain 1 text
    | .ok none, none =>
      task.misuse 1 "you must specify either '--size' or '--reference'"
    | .ok change?, reference? =>
      if reference?.isSome && change?.any (·.1 == .to) then
        task.misuse 1 "you must specify a relative '--size' with '--reference'"
      else if options.has 'o' && change?.isNone then
        task.misuse 1 "'--io-blocks' was specified but '--size' was not"
      else if options.operands.isEmpty then task.misuse 1 "missing file operand"
      else
        let base := reference?.mapM fun path ↦
          (task.tree.read task.here (pathOf path)).map List.length
        match base with
        | .error error =>
          task.complain 1 (aboutOperand "cannot stat" (reference?.getD []) error)
        | .ok base? =>
          let unit := if options.has 'o' then 4096 else 1
          let sizeOf := fun (length : Nat) ↦
            match change? with
            | some (change, size) => change.apply (size * unit) (base?.getD length)
            | none => base?.getD 0
          working task options.operands fun work operand ↦
            let refuse := fun (error : SystemError) ↦
              work.fail task ("cannot open ".toList ++ inQuotes operand ++
                (" for writing: " ++ error.reason).toList)
            match work.tree.locateWritable FileTree.linkLimit task.here (pathOf operand) with
            | .error error => refuse error
            | .ok location =>
              match work.tree.find? location with
              | some .directory => refuse .isDirectory
              | some (.file octets isExecutable) =>
                let size := sizeOf octets.length
                let kept := octets.take size ++ List.replicate (size - octets.length) 0
                work.withTree (work.tree.put location (.file kept isExecutable))
              | _ =>
                if options.has 'c' then work
                else
                  let octets := List.replicate (sizeOf 0) 0
                  work.withTree (work.tree.put location (.file octets false))

/-- Gives an entry other rights. -/
def withRights (task : Task) (work : Work) (location : Location) (rights : Nat) : Work :=
  match work.tree.find? location with
  | some entry =>
    let record := { work.recordOf task location entry with rights }
    let work :=
      match entry with
      | .file octets _ =>
        work.withTree (work.tree.put location (.file octets (Rights.isRunnable rights)))
      | _ => work
    work.record location record
  | none => work

/-- The words of `chmod`: those that begin a mode after a dash are modes, and no options. -/
def modeWords : List Octets → List Octets × List Octets
  | [] => ([], [])
  | ['-', '-'] :: rest => ([], rest)
  | word :: rest =>
    let (flags, others) := modeWords rest
    match word with
    | '-' :: c :: name =>
      if "rwxXstugoa,+=01234567".toList.contains c then (flags, word :: others)
      else if c == '-' && "ref".toList.isPrefixOf name && !name.contains '=' then
        match others with
        | value :: others => (word :: value :: flags, others)
        | [] => (word :: flags, [])
      else (word :: flags, others)
    | _ => (flags, word :: others)

/-- What a change of rights is told of. -/
structure ModeTelling where
  tellsAll : Bool
  tellsChanges : Bool
  isQuiet : Bool

/-- Changes the rights of one file, and tells of it. -/
def changeMode (task : Task) (telling : ModeTelling) (after : Bool → Nat → Option Nat)
    (work : Work) (path : Octets) (location : Location) : Work :=
  match work.tree.find? location with
  | some (.link _) | none => work
  | some entry =>
    let rights := (work.recordOf task location entry).rights
    let new := (after (entry == .directory) rights).getD rights
    let shown := fun (rights : Nat) ↦
      Rights.digits rights ++ " (".toList ++ Rights.text rights ++ [')']
    let work := withRights task work location new
    if rights = new then
      work.sayIf telling.tellsAll
        ("mode of ".toList ++ inQuotes path ++ " retained as ".toList ++ shown new)
    else
      work.sayIf (telling.tellsAll || telling.tellsChanges)
        ("mode of ".toList ++ inQuotes path ++ " changed from ".toList ++ shown rights ++
          " to ".toList ++ shown new)

/-- Does something for an operand, and for all that is below it if `isDeep`. -/
def throughTree (isDeep : Bool)
    (apply : Work → Octets → Location → Work) (work : Work) (operand : Octets)
    (location : Location) : Work :=
  if isDeep then
    let found := work.tree.locations.filter fun other ↦ location.isPrefixOf other
    found.reverse.foldl (fun work other ↦
      let rest := (other.drop location.length).map Octets.ofText
      apply work (rest.foldl below operand) other) work
  else apply work operand location

/-- Changes the rights of files. -/
def chmod : Utility where
  name := "chmod"
  run task :=
    let (flags, words) := modeWords task.arguments
    let form : OptionForm := ⟨['R', 'f', 'v', 'c', '!'], ['='], [("changes", 'c'), ("quiet", 'f'),
      ("silent", 'f'), ("verbose", 'v'), ("recursive", 'R'), ("reference", '='),
      ("preserve-root", '!'), ("no-preserve-root", '!')], false⟩
    match Options.parse form flags with
    | .error text => task.misuse 1 text
    | .ok options =>
      let lead? := options.value? '='
      let reference := lead?.mapM fun path ↦
        (task.tree.locate task.here (pathOf path) true).bind fun location ↦
          match task.tree.find? location with
          | some entry => .ok (task.records.of location entry).rights
          | none => .error .notFound
      let (mode, operands) :=
        if lead?.isSome then ([], words) else (words.headD [], words.drop 1)
      let telling : ModeTelling := ⟨options.has 'v', options.has 'c', options.has 'f'⟩
      let after := fun (from? : Option Nat) (isDirectory : Bool) (rights : Nat) ↦
        from?.or (Rights.after? mode isDirectory task.mask rights)
      if words.isEmpty then task.misuse 1 "missing operand"
      else if operands.isEmpty then
        task.misuse 1 ("missing operand after " ++ Octets.toText (Quoting.plain mode))
      else
        match reference with
        | .error error =>
          task.complain 1 (aboutOperand "failed to get attributes of" (lead?.getD []) error)
        | .ok from? =>
          if (after from? false 420).isNone then
            task.misuse 1 ("invalid mode: " ++ Octets.toText (Quoting.plain mode))
          else
            working task operands fun work operand ↦
              match work.tree.locate task.here (pathOf operand) true with
              | .error error =>
                let isLink := (work.tree.locate task.here (pathOf operand) false).toOption.isSome
                let text :=
                  if isLink && error == .notFound then
                    "cannot operate on dangling symlink ".toList ++ inQuotes operand
                  else aboutOperand "cannot access" operand error
                let work := if telling.isQuiet then { work with hasFailed := true }
                  else work.fail task text
                work.sayIf telling.tellsAll (inQuotes operand ++ " could not be accessed".toList)
              | .ok location =>
                throughTree (options.has 'R') (changeMode task telling (after from?)) work
                  operand location

/-- The only user and group that own files here. -/
def isOwner (name : Octets) : Bool :=
  name == "root".toList || (Number.plain? name) == some 0

/-- The utilities that make and remove files. -/
def ofFiling : List Utility :=
  [touch, rm, rmdir, mkdir, mktemp, truncate, chmod]

/-! ### Pipes -/

/-- Makes a pipe with some rights; `fault` is what is said when that is refused. -/
def pipeMade (task : Task) (rights : Nat) (fault : Octets → SystemError → Octets) (work : Work)
    (operand : Octets) : Work :=
  let path := pathOf operand
  let refuse := fun (error : SystemError) ↦ work.fail task (fault operand error)
  if operand.isEmpty then refuse .notFound
  else if work.tree.pathExists task.here path then refuse .exists
  else
    match work.tree.locateNew task.here path with
    | .error error =>
      let isMissing := !work.tree.pathExists task.here path.parent
      refuse (if isMissing && error == .notDirectory then .notFound else error)
    | .ok location =>
      if operand.getLast? = some '/' then refuse .notFound
      else if (work.tree.find? location).isSome then refuse .exists
      else
        let entry := Entry.file [] (Rights.isRunnable rights)
        (work.withTree (work.tree.put location entry)).record location
          ⟨task.now, rights, 0, true⟩

/-- Makes pipes of names, with a mode if one is given. -/
def pipesMade (task : Task) (mode? : Option Octets) (fault : Octets → SystemError → Octets)
    (names : List Octets) : Effect :=
  let rights? :=
    match mode? with
    | none => some (usualRights (.file [] false) task.mask)
    | some mode => Rights.after? mode false task.mask 438
  match rights? with
  | none => task.complain 1 "invalid mode".toList
  | some rights =>
    if rights > 511 then task.complain 1 "mode must specify only file permission bits".toList
    else working task names (pipeMade task rights fault)

/-- The form of the options of utilities that make pipes. -/
def pipeForm : OptionForm where
  flags := ['Z']
  valued := ['m']
  long := [("mode", 'm'), ("context", 'Z')]
  stopsEarly := false

/-- Makes pipes. -/
def mkfifo : Utility :=
  ofOptions "mkfifo" pipeForm 1 fun task options ↦
    if options.operands.isEmpty then task.misuse 1 "missing operand"
    else
      pipesMade task (options.value? 'm') (aboutOperand "cannot create fifo") options.operands

end Scaffold.Shell.Utility
