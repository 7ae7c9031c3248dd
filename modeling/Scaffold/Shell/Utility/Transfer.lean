import Scaffold.Shell.Utility.Basic
import Scaffold.Shell.Utility.Filing

/-!
# Transfers

Utilities with sources and a target (`Transfer`): the target is a new place for one source, or a
directory in which each source gets a place under its last name. What is in the way may be kept
under another name (`BackupRule`).
-/

set_option autoImplicit false

namespace Scaffold.Shell.Utility

open Text (Octets)

/-- The operands that are sources, and the one that is the target; the target is a directory in
which the sources get places of their own if `isInside`. -/
structure Transfer where
  sources : List Octets
  target : Octets
  isInside : Bool

/-- What keeps operands from being a transfer; `isUsage` when it is about how the utility is
called. -/
structure TransferFault where
  text : String
  isUsage : Bool

/-- What operands say about a transfer. -/
def Transfer.of (task : Task) (options : Options) : Except TransferFault Transfer :=
  let reason := fun (path : Octets) ↦
    (if task.tree.pathExists task.here (pathOf path) then SystemError.notDirectory
      else SystemError.notFound).reason
  match options.value? 't', options.operands with
  | _, [] => .error ⟨"missing file operand", true⟩
  | some directory, sources =>
    if options.has 'T' then
      .error ⟨"cannot combine --target-directory (-t) and --no-target-directory (-T)", false⟩
    else if task.tree.isDirectory task.here (pathOf directory) then
      .ok ⟨sources, directory, true⟩
    else
      let what := if task.name = "install" then "failed to access " else "target directory "
      .error ⟨what ++ Octets.toText (inQuotes directory) ++ ": " ++ reason directory, false⟩
  | none, [operand] =>
    .error ⟨"missing destination file operand after " ++ Octets.toText (inQuotes operand), true⟩
  | none, operands =>
    let target := operands.getLastD []
    let sources := operands.dropLast
    let isDirectory := task.tree.isDirectory task.here (pathOf target) && !options.has 'T'
    if options.has 'T' && sources.length > 1 then
      .error ⟨"extra operand " ++ Octets.toText (inQuotes (operands.getD 2 [])), true⟩
    else if sources.length > 1 && !isDirectory then
      .error ⟨"target " ++ Octets.toText (inQuotes target) ++ ": " ++ reason target, false⟩
    else .ok ⟨sources, target, isDirectory⟩

/-- The target of one source. -/
def Transfer.targetOf (transfer : Transfer) (source : Octets) : Octets :=
  if transfer.isInside then below transfer.target (lastName source) else transfer.target

/-- Complains about a fault. -/
def TransferFault.effect (fault : TransferFault) (task : Task) : Effect :=
  if fault.isUsage then task.misuse 1 fault.text else task.complain 1 fault.text.toList

/-- Does the work for each source of a transfer. -/
def transferring (task : Task) (transfer : Except TransferFault Transfer)
    (step : Transfer → Work → Octets → Work) : Effect :=
  match transfer with
  | .error fault => fault.effect task
  | .ok transfer => working task transfer.sources (step transfer)

/-- The location of a target that may not be there yet. -/
def targetLocation (tree : FileTree) (here : Location) (target : Octets) :
    Except SystemError Location :=
  match tree.locate here (pathOf target) false with
  | .ok location => .ok location
  | .error .notFound =>
    match tree.locateNew here (pathOf (withoutSlashes target)) with
    | .error .notDirectory =>
      if tree.pathExists here (pathOf (withoutSlashes target)).parent then .error .notDirectory
      else .error .notFound
    | outcome => outcome
  | .error error => .error error

/-- A message about a source and a target. -/
def aboutBoth (what : String) (source middle target : Octets) (reason : String) : Octets :=
  (what ++ " ").toList ++ inQuotes source ++ middle ++ inQuotes target ++ reason.toList

/-- The source and the target as they are shown after the work. -/
def arrow (source mark target : Octets) : Octets :=
  inQuotes source ++ mark ++ inQuotes target

/-- The entries at a location and below it. -/
def entriesFrom (tree : FileTree) (location : Location) : List (Location × Entry) :=
  tree.entries.filter fun entry ↦ location.isPrefixOf entry.1

/-- Moves what lies at a location and below it to another one, with what is known about it. -/
def moved (task : Task) (work : Work) (source target : Location) : Work :=
  let place := fun (location : Location) ↦ target ++ location.drop source.length
  let found := entriesFrom work.tree source
  let rest := (work.tree.eraseBelow target).eraseBelow source
  let tree : FileTree := ⟨found.map (fun entry ↦ (place entry.1, entry.2)) ++ rest.entries⟩
  found.foldl (fun work (location, entry) ↦
    work.record (place location) (work.recordOf task location entry)) (work.withTree tree)

/-! ### What is in the way -/

/-- How names for files in the way are chosen. -/
inductive BackupKind
  | off
  | simple
  | existing
  | numbered
  deriving DecidableEq, Repr

/-- The words for how names are chosen. -/
def backupWords : List (String × BackupKind) :=
  [("none", .off), ("off", .off), ("simple", .simple), ("never", .simple),
    ("existing", .existing), ("nil", .existing), ("numbered", .numbered), ("t", .numbered)]

/-- How files in the way are kept, and the ending of their simple names. -/
structure BackupRule where
  kind : BackupKind
  ending : Octets
  deriving Repr

/-- The rule that options and settings give. -/
def BackupRule.of (task : Task) (options : Options) : Except String BackupRule := do
  let ending := (options.value? 'S').getD
    ((task.settings.lookup "SIMPLE_BACKUP_SUFFIX".toList).getD ['~'])
  if !options.has 'b' && !options.has 'S' then return ⟨.off, ending⟩
  match ((options.values 'b').filter (!·.isEmpty)).getLast? with
  | some word => return ⟨← choice "backup type" backupWords word, ending⟩
  | none =>
    match task.settings.lookup "VERSION_CONTROL".toList with
    | some (c :: word) => return ⟨← choice "$VERSION_CONTROL" backupWords (c :: word), ending⟩
    | _ => return ⟨.existing, ending⟩

/-- The numbers of the kept files of a name in a directory. -/
def backupNumbers (tree : FileTree) (location : Location) : List Nat :=
  let front := Octets.ofText (location.getLastD "") ++ ".~".toList
  (tree.namesBelow location.dropLast).filterMap fun name ↦
    let name := Octets.ofText name
    if front.isPrefixOf name ∧ name.getLast? = some '~' then
      Number.plain? (name.drop front.length).dropLast
    else none

/-- What is added to the name of a file in the way, if it is kept. -/
def BackupRule.addition? (rule : BackupRule) (tree : FileTree) (location : Location) :
    Option Octets :=
  let known := backupNumbers tree location
  let next := ".~".toList ++ Number.digits 10 (known.foldl max 0 + 1) ++ ['~']
  match rule.kind with
  | .off => none
  | .simple => some rule.ending
  | .numbered => some next
  | .existing => some (if known.isEmpty then rule.ending else next)

/-- Keeps a file in the way under another name, and tells what was added to its own. -/
def keptAside (task : Task) (rule : BackupRule) (work : Work) (place : Location) :
    Work × Option Octets :=
  match work.tree.find? place, rule.addition? work.tree place with
  | some entry, some addition =>
    if entry == .directory then (work, none)
    else
      let name := place.getLastD "" ++ Octets.toText addition
      (moved task work place (place.dropLast ++ [name]), some addition)
  | _, _ => (work, none)

/-- What is shown of a file that was kept aside. -/
def asideText (target : Octets) : (addition? : Option Octets) → Octets
  | some addition => " (backup: ".toList ++ inQuotes (target ++ addition) ++ [')']
  | none => []

/-- What is done about a file in the way. -/
inductive Collision
  | overwrite
  | ask
  /-- It stays. -/
  | refuse
  deriving DecidableEq, Repr

/-- What is done about files in the way, and whether those stay that are no older. -/
structure CollisionRule where
  collision : Collision
  isUpdate : Bool
  deriving Repr

/-- The rule that options give, the later ones before the earlier. -/
def CollisionRule.of (task : Task) (options : Options) : CollisionRule :=
  options.found.foldl (fun (rule : CollisionRule) (letter, _) ↦
    match letter with
    | 'f' => if task.name = "mv" then { rule with collision := .overwrite } else rule
    | 'i' => { rule with collision := .ask }
    | 'n' => { rule with collision := .refuse }
    | 'u' => { rule with isUpdate := true }
    | _ => rule) ⟨.overwrite, false⟩

/-- What is said where files in the way are to stay and to be kept under other names. -/
def contraryRules : String :=
  "options --backup and --no-clobber are mutually exclusive"

/-- The first file is not newer than the second one. -/
def isNoNewer (task : Task) (work : Work) (first second : Location) : Bool :=
  match work.tree.find? first, work.tree.find? second with
  | some one, some two =>
    (work.recordOf task first one).changed ≤ (work.recordOf task second two).changed
  | _, _ => false

/-- Whether a file in the way stays, for a target that is there. -/
def spared (task : Task) (rule : CollisionRule) (work : Work) (target : Octets)
    (source place : Location) : Work × Bool :=
  let stays := rule.isUpdate && rule.collision != .refuse && isNoNewer task work source place
  if stays then (work, true)
  else
    match rule.collision with
    | .overwrite => (work, false)
    | .refuse => (work, true)
    | .ask =>
      let (work, goesOn) := work.ask task ("overwrite ".toList ++ inQuotes target)
      (work, !goesOn)

/-- A target that ends in a slash and is no directory cannot be a file. -/
def isMisplaced (tree : FileTree) (here : Location) (target : Octets) : Bool :=
  target.getLast? == some '/' && !tree.isDirectory here (pathOf target)

end Scaffold.Shell.Utility
