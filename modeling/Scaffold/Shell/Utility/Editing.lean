import Scaffold.Shell.Editing.Reader
import Scaffold.Shell.Editing.Run
import Scaffold.Shell.Errand
import Scaffold.Shell.Utility.Basic
import Scaffold.Shell.Utility.Locating

/-!
# Editing lines

`sed` runs a script over the lines of files: it prints what comes of them, or puts it in the place
of the files.
-/

set_option autoImplicit false

namespace Scaffold.Shell.Utility

open Text (Octets)

/-- What is edited, and how. -/
structure EditTask where
  task : Task
  options : Options
  setting : Editing.Setting
  /-- What is added to the names of the files as they were. -/
  suffix : Octets

namespace EditTask

/-- The files are edited in place. -/
def inPlace (edits : EditTask) : Bool :=
  edits.options.has '!'

/-- The name of the copy of a file as it was. -/
def copyName (edits : EditTask) (path : Octets) : Octets :=
  let last := (path.reverse.takeWhile (· != '/')).reverse
  let directory := path.take (path.length - last.length)
  if edits.suffix.contains '*' then
    let name := edits.suffix.flatMap fun c ↦ if c = '*' then last else [c]
    if name.contains '/' then name else directory ++ name
  else directory ++ last ++ edits.suffix

/-- The tree with what was written to files; those that a script names are emptied first. -/
def withWritten (edits : EditTask) (written : List (Octets × Octets)) (tree : FileTree) :
    FileTree :=
  let targets := edits.setting.script.filterMap (·.target?)
  targets.foldl (fun tree path ↦
    if path = "/dev/stdout".toList ∨ path = "/dev/stderr".toList then tree
    else
      let text := (written.lookup path).getD []
      (edits.task.store tree path text).toOption.getD tree) tree

/-- What was written to the streams. -/
def complaints (written : List (Octets × Octets)) : List (Nat × Octets) :=
  written.filterMap fun (path, text) ↦
    if path = "/dev/stderr".toList then some (2, text)
    else if path = "/dev/stdout".toList then some (1, text)
    else none

/-- The message about a file that cannot be read. -/
def refusal (edits : EditTask) (source : Octets) (error : SystemError) : Nat × Octets :=
  let text :=
    match error with
    | .isDirectory =>
      if edits.inPlace then "couldn't edit ".toList ++ source ++ ": not a regular file".toList
      else "read error on ".toList ++ source ++ ": Is a directory".toList
    | error => "can't read ".toList ++ source ++ (": " ++ error.reason).toList
  (2, edits.task.message text)

/-- The files that are read: those before the first that is a directory, unless they are edited in
place. -/
def readable (edits : EditTask) (sources : List Octets) : List Octets :=
  if edits.inPlace then sources
  else
    let isDirectory (source : Octets) : Bool :=
      match edits.task.contents source with
      | .error .isDirectory => true
      | _ => false
    let before := sources.takeWhile fun source ↦ !isDirectory source
    sources.take (before.length + 1)

/-- The message about what keeps a run from going on, unless it is a command. -/
def haltMessage (edits : EditTask) : Option Editing.Halt → List (Nat × Octets)
  | some .noExpression =>
    [(2, edits.task.message "-e expression #1, char 0: no previous regular expression".toList)]
  | _ => []

/-- The progress of editing, with the answers to its orders so far. Files are edited apart, or as if
they were one. -/
def progress (edits : EditTask) (sources : List Octets) (answers : List Answer) : Progress :=
  let { task, setting, .. } := edits
  let sources := edits.readable sources
  let (found, _) := task.allContents sources
  let faults := sources.filterMap fun source ↦
    match task.contents source with
    | .error error => some (source, error)
    | .ok _ => none
  let messages := faults.map fun (source, error) ↦ edits.refusal source error
  let wrong := faults.foldl (fun worst (_, error) ↦
    max worst (if error matches .isDirectory then 4 else 2)) 0
  let printed := answers.map (·.outcome.printed)
  let isApart := edits.inPlace || edits.options.has 's'
  let runs : List (Octets × List Octets) :=
    if isApart then found.map fun (source, text) ↦ (source, [text])
    else [(sources.headD ['-'], found.map (·.2))]
  -- Each run uses up some of the answers, and comes with what is left of the line numbers.
  let (results, _, _) := runs.foldl (fun state (source, texts) ↦
    let (results, answers, halted) := state
    if halted then state
    else
      let edited := Editing.edit { setting with file := source } texts answers
      let isOver := edited.halt.isSome || !edited.hasEnd || edited.hasQuit
      ((source, texts, edited) :: results, edited.answers, isOver))
    (([] : List (Octets × List Octets × Editing.Edited)), printed, false)
  let results := results.reverse
  let written := results.flatMap fun (_, _, edited) ↦ edited.written
  let tree := (answers.getLast?.map (·.tree)).getD task.tree
  let tree := edits.withWritten written tree
  let tree :=
    if edits.inPlace then
      results.foldl (fun tree (source, texts, edited) ↦
        if edited.halt.isSome then tree
        else
          let tree :=
            if edits.suffix.isEmpty then tree
            else (task.store tree (edits.copyName source) texts.flatten).toOption.getD tree
          (task.store tree source edited.printed).toOption.getD tree) tree
    else tree
  let hasTargets := edits.inPlace || setting.script.any (·.target?.isSome)
  let tree? := if hasTargets then some tree else none
  let output := if edits.inPlace then [] else results.map fun (_, _, edited) ↦ (1, edited.printed)
  let last? : Option Editing.Edited := results.getLast?.map (·.2.2)
  match last?.bind (·.halt) with
  | some (.asked command) =>
    .ordered [] tree? false { task.shellOrder command with isCaught := true }
  | halt =>
    let status := (last?.map (·.status)).getD 0
    let hasEnd := (last?.map (·.hasEnd)).getD true
    let unread := (last?.map (·.unread)).getD []
    let readsInput := sources.any Task.isInput
    let effect := task.finishAll (if status = 0 then wrong else status)
      (messages ++ output ++ complaints written ++ edits.haltMessage halt) readsInput
    .finished { effect with
      tree := tree?
      input :=
        if !readsInput then task.input
        else if (task.readsFile || edits.options.has 'u') && sources.length ≤ 1 then unread
        else []
      duration := if hasEnd then 0 else Effect.forever }

end EditTask

/-- The options of `sed`. -/
def editForm : OptionForm where
  flags := ['n', 'E', 'r', 's', 'u', 'z', '!', '#', 'b', '+', '?', ':']
  valued := ['e', 'f', 'l']
  long := [("quiet", 'n'), ("silent", 'n'), ("regexp-extended", 'E'), ("expression", 'e'),
    ("file", 'f'), ("in-place", '!'), ("separate", 's'), ("posix", '#'), ("unbuffered", 'u'),
    ("null-data", 'z'), ("zero-terminated", 'z'), ("line-length", 'l'), ("binary", 'b'),
    ("follow-symlinks", 'b'), ("sandbox", '+'), ("debug", 'b'), ("help", '?'), ("version", ':')]
  stopsEarly := false

/-- The arguments with the suffixes that stand behind the option for editing in place cut off, and
the last of the suffixes; `isValue` if the first of them is the value of an option. -/
def withoutSuffix : (isValue : Bool) → List Octets → List Octets × Octets
  | _, [] => ([], [])
  | true, word :: rest =>
    let (others, suffix) := withoutSuffix false rest
    (word :: others, suffix)
  | false, word :: rest =>
    let isLong := "--in-place=".toList.isPrefixOf word
    let letters := word.drop 1
    let lead := letters.takeWhile fun c ↦ ['n', 'E', 'r', 's', 'u', 'z', 'b'].contains c
    let isShort := word.head? = some '-' && (letters.drop lead.length).head? = some 'i'
    let isOpen := word.head? = some '-' && letters.length == lead.length + 1 &&
      letters.getLast?.any editForm.valued.contains
    if word = ['-', '-'] then (word :: rest, [])
    else
      let (others, suffix) := withoutSuffix isOpen rest
      let own := if isLong then word.drop 11 else if isShort then letters.drop (lead.length + 1)
        else []
      let word := if isLong then "--in-place".toList
        else if isShort then '-' :: lead ++ ['!'] else word
      (word :: others, if suffix.isEmpty then own else suffix)

/-- The parts of a script in options. -/
def scriptParts (task : Task) : (count : Nat) → List (Char × Octets) →
    Except Octets (List (Editing.Origin × Octets))
  | _, [] => .ok []
  | count, (letter, value) :: rest =>
    if letter = 'e' then do
      return (.argument count, value) :: (← scriptParts task (count + 1) rest)
    else if letter = 'f' then
      match task.contents value with
      | .error error => .error ("couldn't open file ".toList ++ value ++
          (": " ++ error.reason).toList)
      | .ok text => do
        return (.file value, Editing.withoutMark '\n' text) :: (← scriptParts task count rest)
    else scriptParts task count rest

/-- Edits lines. -/
def sed (task : Task) : Errand :=
  let usage := "Usage: sed [OPTION]... \x7bscript-only-if-no-other-script\x7d [input-file]...\n"
  let failed := fun (status : Nat) (text : Octets) ↦ Errand.write 2 text (.done status)
  let (arguments, suffix) := withoutSuffix false task.arguments
  match Options.parse editForm arguments with
  | .error text => failed 1 (task.message text.toList ++ usage.toList)
  | .ok options =>
    if options.has '?' then .write 1 usage.toList (.done 0)
    else if options.has ':' then .write 1 "sed (GNU sed) 4.9\n".toList (.done 0)
    else
    let hasOwn := options.has 'e' || options.has 'f'
    match hasOwn, options.operands with
    | false, [] => failed 1 usage.toList
    | _, operands =>
      let given := if hasOwn then options.found else [('e', operands.headD [])]
      let operands := if hasOwn then operands else operands.drop 1
      match scriptParts task 1 given with
      | .error message => failed 1 (task.message message)
      | .ok parts =>
        match Editing.Script.read (options.has 'E' || options.has 'r') (options.has '+') parts with
        | .error fault => failed fault.status (task.message fault.message)
        | .ok script =>
          let setting : Editing.Setting :=
            { script := script.instructions
              isSilent := options.has 'n' || script.isSilent
              file := ['-']
              contents := fun path ↦ (task.contents path).toOption.getD []
              mark := if options.has 'z' then '\x00' else '\n'
              length := ((options.value? 'l').map fun text ↦
                Text.digitsValue 10 (text.takeWhile Char.isDigit)).getD 70
              isStrict := options.has '#' ||
                (task.settings.lookup "POSIXLY_CORRECT".toList).isSome
              isInPlace := options.has '!' }
          let edits : EditTask := ⟨task, options, setting, suffix⟩
          let sources := Task.operandsOrInput operands
          .retold 4 (edits.progress sources) Errand.orderLimit []

end Scaffold.Shell.Utility
