import Scaffold.Shell.Utility.Linking

/-!
# Moving and copying files

`mv` gives files other places, and `cp` makes copies of them, which may come with what is known
about the files, be links to them, or have the directories on the way to them as well.
-/

set_option autoImplicit false

namespace Scaffold.Shell.Utility

open Text (Octets)

/-- Moves one file. -/
def moveOperand (task : Task) (options : Options) (backup : BackupRule) (rule : CollisionRule)
    (transfer : Transfer) (work : Work) (operand : Octets) : Work :=
  let operand := if options.has '/' then withoutSlashes operand else operand
  let target := transfer.targetOf operand
  let fail := work.fail task
  let cannotMove := fun (reason : String) ↦
    fail (aboutBoth "cannot move" operand " to ".toList target (": " ++ reason))
  match work.tree.locate task.here (pathOf (withoutSlashes operand)) false with
  | .error error => fail (aboutOperand "cannot stat" operand error)
  | .ok source =>
    let found? := work.tree.find? source
    let isDirectory := found? == some .directory
    let endsInSlash := operand.getLast? == some '/'
    let isLink := found?.any fun entry ↦ entry matches .link _
    if endsInSlash && !isDirectory && !isLink then
      fail (aboutOperand "cannot stat" operand .notDirectory)
    else if target.isEmpty then
      if isDirectory then cannotMove "Device or resource busy"
      else fail "cannot overwrite directory '' with non-directory".toList
    else
      match targetLocation work.tree task.here target with
      | .error error => cannotMove error.reason
      | .ok place =>
        let held? := work.tree.find? place
        let pointsThere := isLink && !(held?.any fun entry ↦ entry matches .link _) &&
          (work.tree.locate task.here (pathOf operand) true).toOption == some place
        let groupOf := fun (location : Location) (found? : Option Entry) ↦
          found?.elim 0 fun entry ↦ (work.recordOf task location entry).group
        let isTwin := groupOf source found? != 0 && groupOf source found? == groupOf place held?
        if source = place || pointsThere || isTwin then
          fail (inQuotes operand ++ " and ".toList ++ inQuotes target ++
            " are the same file".toList)
        else if source.isPrefixOf place then
          fail (aboutBoth "cannot move" operand " to a subdirectory of itself, ".toList target "")
        else if held? == some .directory && !isDirectory then
          fail ("cannot overwrite directory ".toList ++ inQuotes target ++
            " with non-directory".toList)
        else if held? == some .directory && hasEntries work.tree place then
          cannotMove "Directory not empty"
        else if held?.isSome && isDirectory && held? != some .directory then
          fail (aboutBoth "cannot overwrite non-directory" target " with directory ".toList
            operand "")
        else if (endsInSlash && isLink) || (!isDirectory && isMisplaced work.tree task.here target)
        then cannotMove SystemError.notDirectory.reason
        else
          let (work, isSpared) :=
            if held?.isNone || held? == some .directory then (work, false)
            else spared task rule work target source place
          if isSpared then work
          else
            let (work, addition?) := keptAside task backup work place
            (moved task work source place).sayIf (options.has 'v')
              ("renamed ".toList ++ arrow operand " -> ".toList target ++
                asideText target addition?)

/-- Moves files. -/
def mv : Utility :=
  ofOptions "mv" ⟨['f', 'i', 'n', 'T', 'v', 'u', 'b', '/', 'Z'], ['t', 'S'],
    [("backup", 'b'), ("context", 'Z'), ("force", 'f'), ("interactive", 'i'),
      ("no-clobber", 'n'), ("no-target-directory", 'T'),
      ("strip-trailing-slashes", '/'), ("suffix", 'S'), ("target-directory", 't'),
      ("update", 'u'), ("verbose", 'v')], false⟩ 1 fun task options ↦
    let rule := CollisionRule.of task options
    match BackupRule.of task options, Transfer.of task options with
    | .error text, _ => task.misuse 1 text
    | .ok backup, .ok transfer =>
      if rule.collision = .refuse && (options.has 'b' || options.has 'S') then
        task.misuse 1 contraryRules
      else transferring task (.ok transfer) (moveOperand task options backup rule)
    | .ok _, .error fault => fault.effect task

/-- What a copy is. -/
inductive CopyKind
  | contents
  /-- One more name of the file. -/
  | name
  /-- A link to the file. -/
  | link
  /-- What is known about the file, and not what it holds. -/
  | attributes
  deriving DecidableEq, Repr

/-- How files are copied. -/
structure CopyRule where
  kind : CopyKind
  isDeep : Bool
  /-- The copy has the rights and the time of the source. -/
  keepsRights : Bool
  keepsTime : Bool
  /-- The copy has the rights of a new file. -/
  hasNewRights : Bool
  /-- Links are followed: those below a directory, and those among the operands. -/
  follows : Bool
  followsOperands : Bool
  removesFirst : Bool
  isForced : Bool
  withParents : Bool
  isTold : Bool
  backup : BackupRule
  collision : CollisionRule

/-- What a copy knows of its source. -/
def copiedRecord (task : Task) (rule : CopyRule) (record : FileRecord) (isDirectory : Bool) :
    FileRecord :=
  let usual :=
    if rule.hasNewRights then if isDirectory then 511 else 438 else record.rights &&& 511
  let rights := if rule.keepsRights then record.rights
    else usual &&& Rights.without Rights.allBits task.mask
  ⟨if rule.keepsTime then record.changed else task.now, rights, 0, false⟩

/-- Copies one file that is no directory to a place, or says why not. -/
def copyFile (task : Task) (rule : CopyRule) (operand target : Octets) (source place : Location)
    (entry : Entry) (work : Work) : Work :=
  let record := work.recordOf task source entry
  let held? := work.tree.find? place
  let refuse := fun (what : String) ↦
    work.fail task (("cannot create " ++ what ++ " ").toList ++ inQuotes target ++ " to ".toList ++
      inQuotes operand ++ (": " ++ SystemError.exists.reason).toList)
  match rule.kind, entry with
  | .name, entry =>
    if held?.isSome && !rule.isForced && !rule.removesFirst then refuse "hard link"
    else linked task work source place entry
  | .link, _ =>
    if held?.isSome && !rule.isForced && !rule.removesFirst then refuse "symbolic link"
    else if operand.head? != some '/' && place.dropLast != task.here then
      work.fail task (Quoting.shellIfNeeded target ++
        ": can make relative symbolic links only in current directory".toList)
    else work.withTree (work.tree.put place (.link (pathOf operand)))
  | kind, .file octets isExecutable =>
    let isPlain := kind == .contents
    let fresh := copiedRecord task rule record false
    match held? with
    | some (.file old wasExecutable) =>
      let octets := if isPlain then octets else old
      let held := work.recordOf task place (.file old wasExecutable)
      let others :=
        if held.group = 0 then []
        else (task.records.filter fun other ↦
          other.2.group == held.group && other.1 != place).map (·.1)
      let work := others.foldl (fun work other ↦
        work.withTree (work.tree.put other (.file octets isExecutable))) work
      if rule.removesFirst || rule.keepsRights then
        let runs := Rights.isRunnable fresh.rights
        (work.withTree (work.tree.put place (.file octets runs))).record place fresh
      else
        let work := work.withTree (work.tree.put place (.file octets wasExecutable))
        if rule.keepsTime then work.record place { held with changed := record.changed } else work
    | _ =>
      let octets := if isPlain then octets else []
      let runs := if rule.keepsRights then isExecutable else
        isExecutable && Rights.isRunnable fresh.rights
      (work.withTree (work.tree.put place (.file octets runs))).record place fresh
  | _, entry =>
    (work.withTree (work.tree.put place entry)).record place (copiedRecord task rule record false)

/-- Copies what lies at a location to a place, with what is below it; nothing at the place of the
first copy is copied again. Fewer than `left` directories are one in the other. -/
def copyTree (task : Task) (rule : CopyRule) (first : Location) :
    (left : Nat) → Octets → Octets → (source place : Location) → Work → Work
  | 0, _, _, _, _, work => work
  | left + 1, operand, target, source, place, work =>
    match work.tree.find? source with
    | none => work
    | some .directory =>
      let work := work.sayIf rule.isTold (arrow operand " -> ".toList target)
      let names := work.tree.namesBelow source
      let work :=
        if work.tree.hasDirectory place then work
        else
          let record := copiedRecord task rule (work.recordOf task source .directory) true
          (work.withTree (work.tree.put place .directory)).record place record
      names.foldl (fun work name ↦
        let inner := source ++ [name]
        let operand := below operand (Octets.ofText name)
        let followed :=
          match rule.follows, work.tree.find? inner with
          | true, some (.link _) =>
            (work.tree.locate source ⟨name⟩ true).toOption.getD inner
          | _, _ => inner
        if inner = first then work
        else if rule.follows && (work.tree.find? followed).any (· matches .link _) then
          work.fail task (aboutOperand "cannot stat" operand .notFound)
        else
          copyTree task rule first left operand (below target (Octets.ofText name)) followed
            (place ++ [name]) work) work
    | some entry =>
      copyFile task rule operand target source place entry
        (work.sayIf rule.isTold (arrow operand " -> ".toList target))

/-- Makes the directories on the way to an operand in a directory, and tells of each of them. -/
def withWay (task : Task) (rule : CopyRule) (directory operand : Octets) (work : Work) : Work :=
  let parts := (Text.pieces (· == '/') (withoutSlashes operand)).dropLast
  let ways := ((List.range parts.length).map fun index ↦
    ((parts.take (index + 1)).intersperse ['/']).flatten).filter (!·.isEmpty)
  ways.foldl (fun work way ↦
    let target := below directory (way.dropWhile (· == '/'))
    match work.tree.locate task.here (pathOf way) true,
      targetLocation work.tree task.here target with
    | .ok source, .ok place =>
      if (work.tree.find? place).isSome then work
      else
        let record := copiedRecord task rule (work.recordOf task source .directory) true
        ((work.withTree (work.tree.put place .directory)).record place record).sayIf rule.isTold
          (way ++ " -> ".toList ++ target)
    | _, _ => work) work

/-- The place of a copy: one that is written through a link to it, but for a directory or where what
is there gives way. -/
def copyPlace (task : Task) (rule : CopyRule) (isDirectory : Bool) (entry : Entry) (work : Work)
    (target : Octets) : Except SystemError Location :=
  let replaces := rule.removesFirst || rule.kind == .name || rule.kind == .link ||
    entry matches .link _
  if isDirectory || (replaces && !isMisplaced work.tree task.here target) then
    targetLocation work.tree task.here target
  else if isMisplaced work.tree task.here target then .error .notDirectory
  else
    match work.tree.locateWritable FileTree.linkLimit task.here (pathOf target) with
    | .error .notDirectory =>
      if work.tree.pathExists task.here (pathOf target).parent then .error .notDirectory
      else .error .notFound
    | outcome => outcome

/-- Copies one operand. -/
def copyOperand (task : Task) (rule : CopyRule) (transfer : Transfer) (work : Work)
    (operand : Octets) : Work :=
  let target :=
    if rule.withParents then below transfer.target (operand.dropWhile (· == '/'))
    else transfer.targetOf operand
  match work.tree.locate task.here (pathOf operand) rule.followsOperands with
  | .error error => work.fail task (aboutOperand "cannot stat" operand error)
  | .ok source =>
    let entry := (work.tree.find? source).getD .directory
    let isDirectory := entry == .directory
    if isDirectory && !rule.isDeep then
      work.fail task ("-r not specified; omitting directory ".toList ++ inQuotes operand)
    else
      let work := if rule.withParents then withWay task rule transfer.target operand work else work
      let fail := work.fail task
      match copyPlace task rule isDirectory entry work target with
      | .error error =>
        let isFile := target.getLast? == some '/' && work.tree.pathExists task.here
          (pathOf (withoutSlashes target))
        let work := if isFile then work
          else work.sayIf rule.isTold (arrow operand " -> ".toList target)
        let what :=
          if isDirectory then "cannot create directory"
          else if isFile then "cannot stat" else "cannot create regular file"
        work.fail task (aboutOperand what target error)
      | .ok place =>
        let held? := work.tree.find? place
        let direct? := (targetLocation work.tree task.here target).toOption
        let isDangling := direct?.any fun direct ↦
          direct != place && held?.isNone && (work.tree.find? direct).isSome
        let groupOf := fun (location : Location) (found? : Option Entry) ↦
          found?.elim 0 fun entry ↦ (work.recordOf task location entry).group
        let isTwin := groupOf source (some entry) != 0 &&
          groupOf source (some entry) == groupOf place held?
        if (source = place || isTwin && rule.kind != .name) &&
            !(source = place && rule.isForced && rule.backup.kind != .off) then
          fail (inQuotes operand ++ " and ".toList ++ inQuotes target ++
            " are the same file".toList)
        else if isDangling then
          (work.sayIf rule.isTold (arrow operand " -> ".toList target)).fail task
            ("not writing through dangling symlink ".toList ++ inQuotes target)
        else if isDirectory && held?.isSome && held? != some .directory then
          fail (aboutBoth "cannot overwrite non-directory" target " with directory ".toList
            operand "")
        else if !isDirectory && held? == some .directory then
          fail ("cannot overwrite directory ".toList ++ inQuotes target ++
            " with non-directory".toList)
        else
          let (work, isSpared) :=
            if held?.isNone || isDirectory then (work, false)
            else spared task rule.collision work target source place
          if isSpared then work
          else
            let (work, addition?) :=
              if isDirectory then (work, none) else keptAside task rule.backup work place
            let work :=
              if rule.removesFirst && held?.isSome && !isDirectory && addition?.isNone then
                (work.withTree (work.tree.erase place)).sayIf rule.isTold
                  ("removed ".toList ++ inQuotes target)
              else work
            let source := if source = place then
                place.dropLast ++ [place.getLastD "" ++ Octets.toText (addition?.getD [])]
              else source
            if isDirectory then
              let work := copyTree task rule place 1000 operand target source place work
              if source.isPrefixOf place then
                work.fail task (aboutBoth "cannot copy a directory," operand
                  ", into itself, ".toList target "")
              else work
            else
              copyFile task rule operand target source place entry
                (work.sayIf rule.isTold (arrow operand " -> ".toList target ++
                  asideText target addition?))

/-- What a copy may keep. -/
inductive KeptPart
  | mode
  | time
  | other
  | all
  deriving DecidableEq, Repr

/-- The words for what a copy may keep. -/
def keptWords : List (String × KeptPart × Nat) :=
  [("mode", .mode, 0), ("timestamps", .time, 1), ("ownership", .other, 2), ("links", .other, 3),
    ("context", .other, 4), ("xattr", .other, 5), ("all", .all, 6)]

/-- The parts that a list of words names. -/
def keptParts (what : String) (list : Octets) : Except String (List KeptPart) :=
  (Text.pieces (· == ',') list).mapM fun word ↦ (choice what keptWords word).map (·.1)

/-- Which parts a copy keeps after options, the later ones before the earlier: its rights, its time,
and whether it has the rights of a new file. -/
def keptBy (options : Options) : Except String (Bool × Bool × Bool) :=
  options.found.foldlM (fun (kept : Bool × Bool × Bool) (letter, word) ↦ do
    match letter with
    | 'a' => return (true, true, false)
    | 'p' =>
      if word.isEmpty then return (true, true, false)
      let parts ← keptParts "--preserve" word
      let hasAll := parts.contains .all
      return (kept.1 || hasAll || parts.contains .mode, kept.2.1 || hasAll || parts.contains .time,
        kept.2.2 && !(hasAll || parts.contains .mode))
    | '-' =>
      let parts ← keptParts "--no-preserve" word
      let hasAll := parts.contains .all
      let dropsMode := hasAll || parts.contains .mode
      return (kept.1 && !dropsMode, kept.2.1 && !(hasAll || parts.contains .time),
        kept.2.2 || dropsMode)
    | _ => return kept) (false, false, false)

/-- The rule that options give. -/
def CopyRule.of (task : Task) (options : Options) : Except String CopyRule := do
  let collision := CollisionRule.of task options
  let backup ← BackupRule.of task options
  let (keepsRights, keepsTime, hasNewRights) ← keptBy options
  if options.has 'l' && options.has 's' then throw "cannot make both hard and symbolic links"
  if collision.collision = .refuse && (options.has 'b' || options.has 'S') then
    throw contraryRules
  let isDeep := options.has 'r' || options.has 'R' || options.has 'a'
  let way := (options.found.reverse.find? fun entry ↦
    ['L', 'P', 'H', 'd', 'a'].contains entry.1).map (·.1)
  let follows := way == some 'L' || (way.isNone && !isDeep)
  let kind : CopyKind :=
    if options.has 'l' then .name else if options.has 's' then .link
    else if options.has '\x03' then .attributes else .contents
  return {
    kind, isDeep, keepsRights, keepsTime, hasNewRights, follows
    followsOperands := follows || way == some 'H'
    removesFirst := options.has '\x02', isForced := options.has 'f'
    withParents := options.has '\x01', isTold := options.has 'v', backup, collision }

/-- The form of the options of `cp`. -/
def copyForm : OptionForm where
  flags := "rRapfLPHdnTvisulxbZ/\x01\x02\x03\x04".toList
  valued := ['t', 'S', '-']
  long := [("archive", 'a'), ("attributes-only", '\x03'), ("backup", 'b'), ("context", 'Z'),
    ("copy-contents", '\x04'), ("dereference", 'L'), ("force", 'f'),
    ("interactive", 'i'), ("link", 'l'), ("no-clobber", 'n'), ("no-dereference", 'P'),
    ("no-preserve", '-'), ("no-target-directory", 'T'), ("one-file-system", 'x'),
    ("parents", '\x01'), ("path", '\x01'), ("preserve", 'p'), ("recursive", 'r'),
    ("reflink", '\x04'), ("remove-destination", '\x02'), ("sparse", '\x04'),
    ("strip-trailing-slashes", '/'), ("suffix", 'S'), ("symbolic-link", 's'),
    ("target-directory", 't'), ("update", 'u'), ("verbose", 'v')]
  stopsEarly := false

/-- Copies files. -/
def cp : Utility :=
  ofOptions "cp" copyForm 1 fun task options ↦
    match CopyRule.of task options with
    | .error text => task.misuse 1 text
    | .ok rule =>
      let transfer := Transfer.of task options
      let isOutside := match transfer with
        | .ok transfer => !transfer.isInside
        | .error _ => false
      if rule.withParents && isOutside then
        task.misuse 1 "with --parents, the destination must be a directory"
      else transferring task transfer (copyOperand task rule)

/-- The utilities that move and copy files. -/
def ofMoving : List Utility :=
  [mv, cp]

end Scaffold.Shell.Utility
