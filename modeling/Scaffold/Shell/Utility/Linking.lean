import Scaffold.Shell.Utility.Locating
import Scaffold.Shell.Utility.Transfer

/-!
# Linking and installing files

Utilities that give a file one more name (`ln`, `link`), and the one that copies files to where they
are to be used, with rights of their own (`install`).
-/

set_option autoImplicit false

namespace Scaffold.Shell.Utility

open Text (Octets)

/-- Links two locations to one another as one file. -/
def linked (task : Task) (work : Work) (source place : Location) (entry : Entry) : Work :=
  let record := work.recordOf task source entry
  let greatest := fun (records : Records) ↦
    records.foldl (fun most other ↦ max most other.2.group) 0
  let group :=
    if record.group != 0 then record.group
    else max (greatest task.records) (greatest work.records) + 1
  let record := { record with group }
  ((work.withTree (work.tree.put place entry)).record source record).record place record

/-- Makes one link. -/
def linkOperand (task : Task) (options : Options) (backup : BackupRule) (transfer : Transfer)
    (work : Work) (operand : Octets) : Work :=
  let isLink := fun (target : Octets) ↦
    match task.tree.locate task.here (pathOf target) false with
    | .ok location => (task.tree.find? location).any fun entry ↦ (entry matches .link _)
    | .error _ => false
  let isSymbolic := options.has 's'
  let kind := if isSymbolic then "symbolic link" else "hard link"
  let transfer :=
    if options.has 'n' && isLink transfer.target then { transfer with isInside := false }
    else transfer
  let target := transfer.targetOf operand
  let refuse := fun (error : SystemError) ↦
    let subject :=
      if isSymbolic || error == .exists then inQuotes target
      else arrow target " => ".toList operand
    work.fail task (("failed to create " ++ kind ++ " ").toList ++ subject ++
      (": " ++ error.reason).toList)
  let source := work.tree.locate task.here (pathOf operand) (options.has 'L')
  match isSymbolic, source with
  | false, .error error => work.fail task (aboutOperand "failed to access" operand error)
  | _, source =>
    match targetLocation work.tree task.here target with
    | .error error => refuse error
    | .ok place =>
      let held? := work.tree.find? place
      let mark := if isSymbolic then " -> ".toList else " => ".toList
      let mode := (options.found.reverse.find? fun entry ↦ ['f', 'i'].contains entry.1).map (·.1)
      let isKept := backup.kind != .off
      let isSame := source.toOption == some place
      let found? := source.toOption.bind work.tree.find?
      if isSymbolic && operand.isEmpty then
        work.fail task ("failed to create symbolic link ".toList ++
          arrow target " -> ".toList operand ++ (": " ++ SystemError.notFound.reason).toList)
      else if !isSymbolic && found? == some .directory then
        work.fail task (operand ++ ": hard link not allowed for directory".toList)
      else if isMisplaced work.tree task.here target then
        refuse (if held?.isSome then .notDirectory else .notFound)
      else if held? == some .directory && (mode.isSome || isKept) then
        work.fail task (Quoting.shellIfNeeded target ++ ": cannot overwrite directory".toList)
      else if held?.isSome && isSame && (mode.isSome || isKept) then
        work.fail task (inQuotes operand ++ " and ".toList ++ inQuotes target ++
          " are the same file".toList)
      else
        let (work, goesOn) :=
          if mode = some 'i' && held?.isSome then
            work.ask task ("replace ".toList ++ inQuotes target)
          else (work, true)
        if !goesOn then work
        else if held?.isSome && mode.isNone && !isKept then refuse .exists
        else
          let (work, addition?) := keptAside task backup work place
          let front := match addition? with
            | some addition => inQuotes (target ++ addition) ++ " ~ ".toList
            | none => []
          let work :=
            match isSymbolic, source, found? with
            | false, .ok source, some entry => linked task work source place entry
            | _, _, _ =>
              let goal :=
                if options.has 'r' then
                  match work.tree.locateWritable FileTree.linkLimit task.here (pathOf operand) with
                  | .ok location => relativePath place.dropLast location
                  | .error _ => operand
                else operand
              work.withTree (work.tree.put place (.link (pathOf goal)))
          work.sayIf (options.has 'v') (front ++ arrow target mark operand)

/-- Makes links. -/
def ln : Utility :=
  ofOptions "ln" ⟨['s', 'f', 'n', 'T', 'v', 'r', 'i', 'L', 'P', 'b', 'd', 'F'], ['t', 'S'],
    [("backup", 'b'), ("directory", 'd'), ("symbolic", 's'), ("force", 'f'), ("interactive", 'i'),
      ("logical", 'L'), ("physical", 'P'), ("suffix", 'S'), ("no-dereference", 'n'),
      ("no-target-directory", 'T'), ("target-directory", 't'), ("relative", 'r'),
      ("verbose", 'v')], false⟩ 1 fun task options ↦
    match BackupRule.of task options with
    | .error text => task.misuse 1 text
    | .ok backup =>
      let transfer :=
        match options.value? 't', options.operands with
        | none, [operand] =>
          if options.has 'T' then Transfer.of task options else .ok ⟨[operand], ['.'], true⟩
        | _, _ => Transfer.of task options
      if options.has 'r' && !options.has 's' then
        task.complain 1 "cannot do --relative without --symbolic".toList
      else transferring task transfer (linkOperand task options backup)

/-- Makes a directory and those on the way to it, and tells of each new one. -/
def installWay (task : Task) (mode? : Option Octets) (isTold : Bool) (work : Work)
    (directory : Octets) : Work :=
  let form : Options := ⟨(mode?.map fun mode ↦ ('m', mode)).toList ++ if isTold then [('v', [])]
    else [], []⟩
  let quiet := { work with written := [] }
  let done := madeParents task form quiet directory
  let front := "mkdir: created".toList
  let told := done.written.map fun (descriptor, text) ↦
    if front.isPrefixOf text then
      (descriptor, "install: creating".toList ++ text.drop front.length)
    else (descriptor, text)
  { done with written := told ++ work.written }

/-- Installs one file with rights of its own. -/
def installOperand (task : Task) (options : Options) (rights : Nat) (backup : BackupRule)
    (transfer : Transfer) (work : Work) (operand : Octets) : Work :=
  let target := transfer.targetOf operand
  let isTold := options.has 'v'
  let parent := ((target.reverse.dropWhile (· != '/')).dropWhile (· == '/')).reverse
  let work :=
    if options.has 'D' && !parent.isEmpty then installWay task none isTold work parent else work
  match work.tree.locate task.here (pathOf operand) true with
  | .error error => work.fail task (aboutOperand "cannot stat" operand error)
  | .ok source =>
    match work.tree.find? source with
    | some (.file octets isExecutable) =>
      let refuse := fun (error : SystemError) ↦
        (work.sayIf isTold (arrow operand " -> ".toList target)).fail task
          (aboutOperand "cannot create regular file" target error)
      if target.isEmpty then
        work.fail task "cannot overwrite directory '' with non-directory".toList
      else if isMisplaced work.tree task.here target then refuse .notDirectory
      else
        match targetLocation work.tree task.here target with
        | .error error => refuse error
        | .ok place =>
          let held? := work.tree.find? place
          let record := work.recordOf task source (.file octets isExecutable)
          let isSame := held?.any fun entry ↦
            (entry matches .file _ _) && (work.recordOf task place entry).rights == rights &&
              match entry with
              | .file old _ => old == octets
              | _ => false
          if source = place then
            work.fail task (inQuotes operand ++ " and ".toList ++ inQuotes target ++
              " are the same file".toList)
          else if held? == some .directory then
            work.fail task ("cannot overwrite directory ".toList ++ inQuotes target ++
              " with non-directory".toList)
          else if options.has 'C' && isSame then work
          else
            let (work, addition?) := keptAside task backup work place
            let work := work.sayIf (isTold && held?.isSome && addition?.isNone)
              ("removed ".toList ++ inQuotes target)
            let entry := Entry.file octets (Rights.isRunnable rights)
            let time := if options.has 'p' then record.changed else task.now
            let work :=
              (work.withTree (work.tree.put place entry)).record place ⟨time, rights, 0, false⟩
            let work := work.sayIf isTold
              (arrow operand " -> ".toList target ++ asideText target addition?)
            if !options.has 's' then work
            else
              let work := { work with written :=
                (2, "strip: ".toList ++ target ++
                  ": file format not recognized\n".toList) :: work.written }
              (work.withTree (work.tree.erase place)).fail task
                "strip process terminated abnormally".toList
    | _ => work.fail task ("omitting directory ".toList ++ inQuotes operand)

/-- Copies files to where they are to be used. -/
def install : Utility :=
  ofOptions "install" ⟨['d', 'D', 'v', 'c', 'p', 'C', 's', 'T', 'b', 'Z'],
    ['m', 't', 'o', 'g', 'S', '!'],
    [("backup", 'b'), ("compare", 'C'), ("context", 'Z'), ("directory", 'd'),
      ("group", 'g'), ("mode", 'm'), ("no-target-directory", 'T'), ("owner", 'o'),
      ("preserve-context", 'Z'), ("preserve-timestamps", 'p'), ("strip", 's'),
      ("strip-program", '!'), ("suffix", 'S'), ("target-directory", 't'), ("verbose", 'v')], false⟩
    1 fun task options ↦
    let mode := (options.value? 'm').getD "755".toList
    let unknown := fun (letter : Char) (what : String) ↦
      ((options.value? letter).filter fun name ↦
        name != "root".toList && (Number.plain? name).isNone).map fun name ↦
          ("invalid " ++ what ++ " ").toList ++ inQuotes name
    match Rights.after? mode false 0 0, BackupRule.of task options with
    | none, _ => task.complain 1 ("invalid mode ".toList ++ Quoting.plain mode)
    | _, .error text => task.misuse 1 text
    | some rights, .ok backup =>
      match (unknown 'o' "user").or (unknown 'g' "group") with
      | some text => task.complain 1 text
      | none =>
        if options.has 'd' then
          if options.has 't' then
            task.complain 1
              "target directory not allowed when installing a directory".toList
          else if options.operands.isEmpty then task.misuse 1 "missing file operand"
          else
            working task options.operands fun work operand ↦
              if operand.isEmpty then
                work.fail task (aboutOperand "cannot create directory" operand .notFound)
              else installWay task (options.value? 'm') (options.has 'v') work operand
        else
          let (task, front) :=
            match options.has 'D', options.value? 't' with
            | true, some directory =>
              let work := installWay task none (options.has 'v') (Work.start task) directory
              ({ task with tree := work.tree }, work.written.reverse)
            | _, _ => (task, [])
          let transfer :=
            match Transfer.of task options with
            | .error fault =>
              if options.has 'D' && options.operands.length = 2 && !options.has 't' then
                .ok ⟨options.operands.take 1, options.operands.getD 1 [], false⟩
              else .error fault
            | outcome => outcome
          let effect := transferring task transfer (installOperand task options rights backup)
          { effect with
            written := front ++ effect.written
            tree := some (effect.tree.getD task.tree) }

/-- The utilities that link and install files. -/
def ofLinking : List Utility :=
  [ln, install]

end Scaffold.Shell.Utility
