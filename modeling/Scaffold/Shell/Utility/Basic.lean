import Scaffold.Files.Change
import Scaffold.Shell.Number
import Scaffold.Shell.Quoting
import Scaffold.Shell.Record
import Scaffold.Text.Blank

/-!
# Utilities

The programs that a shell script may count on. A utility reads its arguments, files and input
(`Task`), and leaves what it wrote, a status, the input that it did not read, and the files as it
changed them (`Effect`). Options come before, between and after operands, up to `--`. Where the
value of an option is one of a few words, the beginning of a word stands for it if no word of
another meaning begins so (`Utility.choice`).

A file as utilities show it (`Utility.Listed`) has the letter of its kind, its size in octets and in
kilobytes, a number of names (`Utility.namesOf`), and a number that it shares with its other names
(`Utility.numberOf`).
-/

set_option autoImplicit false

namespace Scaffold.Shell

open Text (Octets)

/-- What a utility works on. -/
structure Task where
  name : String
  arguments : List Octets
  tree : FileTree
  here : Location
  input : Octets
  /-- The input is a file, and no stream. -/
  readsFile : Bool
  settings : List (Octets × Octets)
  /-- What is known about the files. -/
  records : Records
  /-- The time in microseconds. -/
  now : Int
  /-- The rights that new files do not get. -/
  mask : Nat
  /-- How far programs give way to others. -/
  niceness : Int
  /-- There is an input, be it an empty one. -/
  hasInput : Bool
  /-- The file that the input comes from, and where in it. -/
  inputPlace : Option (Location × Nat)
  /-- The file that the output goes to, and where in it if that is not at its end. -/
  outputPlace : Option (Location × Option Nat)

/-- What a utility leaves: its status, what it wrote to which descriptor, the input that it did not
read, the files if it changed them, records of files, and how many milliseconds it took. -/
structure Effect where
  status : Nat
  written : List (Nat × Octets)
  input : Octets
  tree : Option FileTree
  records : Records
  duration : Nat

/-- The milliseconds that a program takes that never ends. -/
def Effect.forever : Nat := 1000000000

/-- The effect is that of a program that never ends, and writes more than pipes hold. -/
def Effect.hasNoEnd (effect : Effect) : Bool :=
  effect.duration ≥ Effect.forever &&
    effect.written.any fun (descriptor, text) ↦ descriptor == 1 && text.length > 524288

/-- The options and operands among arguments; an option without a value has an empty one. -/
structure Options where
  found : List (Char × Octets)
  operands : List Octets
  deriving Repr

/-- How a utility takes options: letters alone, letters with a value, and long names for letters. -/
structure OptionForm where
  flags : List Char
  valued : List Char
  long : List (String × Char)
  /-- Operands end the options. -/
  stopsEarly : Bool

/-- The path of an argument. -/
def pathOf (octets : Octets) : Path :=
  ⟨Octets.toText octets⟩

/-- The location as an absolute path. -/
def locationText (location : Location) : Octets :=
  Octets.ofText ("/" ++ Text.joinWith "/" location)

namespace Options

/-- The option is there. -/
def has (options : Options) (letter : Char) : Bool :=
  options.found.any (·.1 == letter)

/-- The value of an option, the last one if there are several. -/
def value? (options : Options) (letter : Char) : Option Octets :=
  (options.found.reverse.find? (·.1 == letter)).map (·.2)

/-- The values of an option. -/
def values (options : Options) (letter : Char) : List Octets :=
  (options.found.filter (·.1 == letter)).map (·.2)

/-- The options with one more in front. -/
def push (options : Options) (letter : Char) (value : Octets) : Options :=
  { options with found := (letter, value) :: options.found }

/-- The options of a word of letters, and whether the last one waits for its value. -/
def letters (form : OptionForm) : Octets → Except String (List (Char × Octets) × Option Char)
  | [] => .ok ([], none)
  | letter :: rest =>
    if form.valued.contains letter then
      if rest.isEmpty then .ok ([], some letter) else .ok ([(letter, rest)], none)
    else if form.flags.contains letter then do
      let (others, open_) ← letters form rest
      return ((letter, []) :: others, open_)
    else .error ("invalid option -- '" ++ String.ofList [letter] ++ "'")

/-- The long names that may have a value, and may be without one. -/
def openNames : List String :=
  ["all-repeated", "backup", "block-signal", "check", "classify", "color", "colour", "context",
    "default-signal", "eof", "follow", "group", "hex-suffixes", "hyperlink", "ignore-signal",
    "in-place", "interactive", "iso-8601", "max-lines", "numeric-suffixes", "output-error",
    "preserve", "preserve-root", "reflink", "replace", "sparse", "strings", "tmpdir", "unified",
    "width"]

/-- The long name and the letter for a name, or for the beginning of one or several that all stand
for the same letter. -/
def long? (form : OptionForm) (word name : Octets) : Except String (String × Char) :=
  let candidates := form.long.filter fun entry ↦ name.isPrefixOf entry.1.toList
  match form.long.find? fun entry ↦ entry.1.toList == name with
  | some entry => .ok entry
  | none =>
    match candidates with
    | [] => .error ("unrecognized option '" ++ String.ofList word ++ "'")
    | (full, letter) :: others =>
      if others.all (·.2 == letter) then .ok (full, letter)
      else
        let shown := candidates.map fun entry ↦ " '--" ++ entry.1 ++ "'"
        .error ("option '--" ++ String.ofList name ++ "' is ambiguous; possibilities:" ++
          String.join shown)

/-- Reads arguments. -/
def parse (form : OptionForm) : List Octets → Except String Options
  | [] => .ok ⟨[], []⟩
  | word :: rest =>
    match word with
    | ['-', '-'] => .ok ⟨[], rest⟩
    | '-' :: '-' :: text =>
      let name := text.takeWhile (· != '=')
      match long? form word name with
      | .error message => .error message
      | .ok (full, letter) =>
        if name.length < text.length then
          if form.valued.contains letter || openNames.contains full then do
            return (← parse form rest).push letter (text.drop (name.length + 1))
          else .error ("option '--" ++ full ++ "' doesn't allow an argument")
        else if form.valued.contains letter then
          match rest with
          | value :: rest => do return (← parse form rest).push letter value
          | [] => .error ("option '" ++ String.ofList word ++ "' requires an argument")
        else do return (← parse form rest).push letter []
    | '-' :: letter :: more => do
      let (found, open_) ← letters form (letter :: more)
      match open_, rest with
      | none, rest =>
        let options ← parse form rest
        return { options with found := found ++ options.found }
      | some letter, value :: rest =>
        let options ← parse form rest
        return { options with found := found ++ (letter, value) :: options.found }
      | some letter, [] =>
        .error ("option requires an argument -- '" ++ String.ofList [letter] ++ "'")
    | word =>
      if form.stopsEarly then .ok ⟨[], word :: rest⟩
      else do
        let options ← parse form rest
        return { options with operands := word :: options.operands }

end Options

/-- The octets that are read of a device without an end. -/
def deviceRoom : Nat := 1114112

/-- Octets without an order. -/
def noise (count seed : Nat) : Octets :=
  let (octets, _) := (List.range count).foldl (fun (state : Octets × UInt64) _ ↦
    let value := state.2 * 6364136223846793005 + 1442695040888963407
    (Char.ofNat (value >>> 56).toNat :: state.1, value)) ([], seed.toUInt64)
  octets

namespace Task

/-- Writes a text and ends with a status; the files stay as they are. -/
def finish (task : Task) (status : Nat) (output : Octets) : Effect :=
  ⟨status, [(1, output)], task.input, none, [], 0⟩

/-- Writes texts in order and ends with a status, having read all input if `readsAll`. -/
def finishAll (task : Task) (status : Nat) (written : List (Nat × Octets)) (readsAll : Bool) :
    Effect :=
  ⟨status, written, if readsAll then [] else task.input, none, [], 0⟩

/-- A message with the name of the utility. -/
def message (task : Task) (text : Octets) : Octets :=
  Octets.ofText (task.name ++ ": ") ++ text ++ ['\n']

/-- Complains and ends with a status. -/
def complain (task : Task) (status : Nat) (text : Octets) : Effect :=
  ⟨status, [(2, task.message text)], task.input, none, [], 0⟩

/-- Complains about the arguments and ends with a status. -/
def misuse (task : Task) (status : Nat) (text : String) : Effect :=
  let hint := "Try '" ++ task.name ++ " --help' for more information.\n"
  ⟨status, [(2, task.message (Octets.ofText text) ++ Octets.ofText hint)], task.input, none, [], 0⟩

/-- The message about an operand that the system refused. -/
def refusal (task : Task) (operand : Octets) (error : SystemError) : Octets :=
  task.message (Quoting.shellIfNeeded operand ++ Octets.ofText (": " ++ error.reason))

/-- What is said when the output cannot be written. -/
def unwritten (task : Task) (error : SystemError) : Octets :=
  if ["awk", "mawk"].contains task.name then
    ("close failed on file \"/dev/stdout\" (" ++ error.reason ++ ")").toList
  else ("write error: " ++ error.reason).toList

/-- The operand stands for the input. -/
def isInput (operand : Octets) : Bool :=
  operand == ['-'] || operand == "/dev/stdin".toList || operand == "/dev/fd/0".toList ||
    operand == "/proc/self/fd/0".toList

/-- The contents of a device that is read, if the path is one's. -/
def deviceContents? (path : Octets) : Option Octets :=
  match String.ofList path with
  | "/dev/null" => some []
  | "/dev/zero" => some (List.replicate deviceRoom '\x00')
  | "/dev/full" => some (List.replicate deviceRoom '\x00')
  | "/dev/urandom" => some (noise deviceRoom 1)
  | "/dev/random" => some (noise deviceRoom 2)
  | _ => none

/-- The contents of an operand. -/
def contents (task : Task) (operand : Octets) : Except SystemError Octets :=
  if isInput operand then if task.hasInput then .ok task.input else .error .badDescriptor
  else
    match deviceContents? operand with
    | some octets => .ok octets
    | none => (task.tree.read task.here (pathOf operand)).map Octets.ofBytes

/-- The operands, or the input where there are none. -/
def operandsOrInput (operands : List Octets) : List Octets :=
  if operands.isEmpty then [['-']] else operands

/-- The contents of the operands that can be read, and the messages about the others. -/
def allContents (task : Task) (operands : List Octets) :
    List (Octets × Octets) × List Octets :=
  operands.foldr (fun operand (texts, messages) ↦
    match task.contents operand with
    | .ok text => ((operand, text) :: texts, messages)
    | .error error => (texts, task.refusal operand error :: messages)) ([], [])

/-- The contents of operands in their order; an input is used up by the first of them that stands
for it. -/
def sources (task : Task) (operands : List Octets) :
    List (Octets × Except SystemError Octets) :=
  let step := fun (state : List (Octets × Except SystemError Octets) × Task) (operand : Octets) ↦
    let (found, task) := state
    let contents := task.contents operand
    ((operand, contents) :: found,
      if isInput operand then { task with input := [] } else task)
  (operands.foldl step ([], task)).1.reverse

/-- Shows the contents of operands after a change, or those of the input, and messages where there
are no contents. -/
def filtered (task : Task) (operands : List Octets) (change : Octets → Octets) : Effect :=
  let operands := operandsOrInput operands
  let written := (task.sources operands).map fun (operand, contents) ↦
    match contents with
    | .ok text => (1, change text)
    | .error error => (2, task.refusal operand error)
  task.finishAll (if written.any (·.1 == 2) then 1 else 0) written (operands.any isInput)

/-- The file of an operand is the one that the output goes to, and more of it is still to be
read. -/
def feedsItself (task : Task) (operand : Octets) : Bool :=
  let source? :=
    if isInput operand then task.inputPlace
    else (task.tree.locate task.here (pathOf operand) true).toOption.map fun place ↦ (place, 0)
  match source?, task.outputPlace with
  | some (place, start), some (target, offset?) =>
    let size :=
      match task.tree.find? place with
      | some (.file octets _) => octets.length
      | _ => 0
    place == target && start < offset?.getD size
  | _, _ => false

/-- Writes a file whole, in place of the one that is there or as a new one. -/
def store (task : Task) (tree : FileTree) (path octets : Octets) :
    Except SystemError FileTree := do
  if path = "/dev/null".toList ∨ path = "/dev/zero".toList then return tree
  if path = "/dev/full".toList then
    if octets.isEmpty then return tree else throw .noRoom
  let location ← tree.locateWritable FileTree.linkLimit task.here (pathOf path)
  match tree.find? location with
  | some .directory => throw .isDirectory
  | some (.file _ isExecutable) =>
    return tree.put location (.file (Octets.toBytes octets) isExecutable)
  | _ => return tree.put location (.file (Octets.toBytes octets) false)

/-- Applies a change of the files for each operand, and ends with a status of one if any was
refused. -/
def forEach (task : Task) (operands : List Octets)
    (change : FileTree → Octets → Except Octets FileTree) : Effect :=
  let (tree, messages) := operands.foldl (fun (state : FileTree × List Octets) operand ↦
    match change state.1 operand with
    | .ok tree => (tree, state.2)
    | .error message =>
      (state.1, if message.isEmpty then state.2 else task.message message :: state.2))
    (task.tree, [])
  { task.finishAll (if messages.isEmpty then 0 else 1)
      (messages.reverse.map fun message ↦ (2, message)) false with tree := some tree }

end Task

/-- A program of the system. -/
structure Utility where
  name : String
  run : Task → Effect

/-- The status of the utility if it cannot write. -/
def Utility.failure (utility : Utility) : Nat :=
  if ["grep", "egrep", "fgrep", "sort", "expr"].contains utility.name then 2
  else if utility.name == "sed" then 4 else 1

/-- The utility lets time pass. -/
def Utility.waits (utility : Utility) : Bool :=
  utility.name == "sleep"

/-- The utility reads the files that its operands name. -/
def Utility.reads (utility : Utility) : Bool :=
  ["cat", "tac", "head", "tail", "wc", "sort", "uniq", "cut", "paste", "join", "comm", "grep",
    "egrep", "fgrep", "sed", "awk", "mawk", "nl", "od", "rev", "fold", "fmt", "expand", "unexpand",
    "base64", "base32", "md5sum", "sha1sum", "sha256sum", "sha512sum", "cksum", "sum", "diff",
    "cmp", "split"].contains utility.name

namespace Utility

/-- The utility that reads its options first; a wrong one ends it with a status. -/
def ofOptions (name : String) (form : OptionForm) (wrong : Nat)
    (run : Task → Options → Effect) : Utility where
  name := name
  run task :=
    match Options.parse form task.arguments with
    | .error text => task.misuse wrong text
    | .ok options => run task options

end Utility

/-- The parts of a text that `ends` ends, and what follows the last of them. -/
def partsOf (ends : Char → Bool) (text : Octets) : List Octets × Octets :=
  let (parts, last) := text.foldl (fun (state : List Octets × Octets) c ↦
    if ends c then (state.2.reverse :: state.1, []) else (state.1, c :: state.2)) ([], [])
  (parts.reverse, last.reverse)

/-- The lines of a text, without their ends; the last one may have none. -/
def plainLines (text : Octets) : List Octets :=
  let (lines, last) := partsOf (· == '\n') text
  if last.isEmpty then lines else lines ++ [last]

/-- The lines of a text, with their ends. -/
def wholeLines (text : Octets) : List Octets :=
  let (lines, last) := partsOf (· == '\n') text
  lines.map (· ++ ['\n']) ++ (if last.isEmpty then [] else [last])

/-- The words between blanks. -/
def wordsOf (text : Octets) : List Octets :=
  let (words, last) := partsOf Char.isWhitespace text
  (words ++ [last]).filter fun word ↦ !word.isEmpty

/-- Lines with an end each. -/
def ended (lines : List Octets) : Octets :=
  lines.flatMap (· ++ ['\n'])

/-! ### Choices -/

namespace Utility

/-- The words of choices as a message lists them: those of one meaning on one line. -/
def choiceLines {α : Type} [DecidableEq α] : Option α → List (String × α) → String
  | _, [] => ""
  | before, (word, value) :: others =>
    (if before = some value then ", '" else "\n  - '") ++ word ++ "'" ++
      choiceLines (some value) others

/-- The message about a word that is no choice, or the beginning of several. -/
def wrongChoice {α : Type} [DecidableEq α] (what : String) (choices : List (String × α))
    (isAmbiguous : Bool) (word : Octets) : String :=
  (if isAmbiguous then "ambiguous" else "invalid") ++ " argument " ++
    Octets.toText (Quoting.plain word) ++ " for '" ++ what ++ "'\nValid arguments are:" ++
    choiceLines none choices

/-- The value that a word, or the beginning of one, stands for; otherwise what is wrong with it. -/
def choice {α : Type} [DecidableEq α] (what : String) (choices : List (String × α))
    (word : Octets) : Except String α :=
  match choices.find? fun entry ↦ entry.1.toList == word with
  | some (_, value) => .ok value
  | none =>
    match choices.filter fun entry ↦ word.isPrefixOf entry.1.toList with
    | (_, value) :: others =>
      if others.all (·.2 == value) then .ok value
      else .error (wrongChoice what choices true word)
    | [] => .error (wrongChoice what choices false word)

end Utility

end Scaffold.Shell

namespace Scaffold.Shell.Utility

open Text (Octets)

/-! ### Files as they are shown -/

/-- A file that is listed: its name, where it lies and what lies there. -/
structure Listed where
  name : Octets
  location : Location
  entry : Entry

/-- The number of octets of an entry. -/
def sizeOf : Entry → Nat
  | .directory => 4096
  | .file octets _ => octets.length
  | .link target => target.text.utf8ByteSize

/-- The letter of the kind of a file. -/
def kindLetter (record : FileRecord) : Entry → Char
  | .directory => 'd'
  | .file _ _ => if record.isPipe then 'p' else '-'
  | .link _ => 'l'

/-- The kilobytes that an entry takes. -/
def blocksOf : Entry → Nat
  | .directory => 4
  | .file octets _ => (octets.length + 4095) / 4096 * 4
  | .link _ => 0

/-- The number of names of an entry. -/
def namesOf (tree : FileTree) (records : Records) (location : Location) (entry : Entry) : Nat :=
  match entry with
  | .directory =>
    2 + tree.entries.countP fun (place, other) ↦
      other == .directory && place.dropLast == location && !place.isEmpty
  | entry =>
    let group := (records.of location entry).group
    if group = 0 then 1
    else records.countP fun other ↦
      other.2.group == group && (tree.find? other.1).isSome

/-- The number of a file, which its other names have too. -/
def numberOf (tree : FileTree) (records : Records) (location : Location) (entry : Entry) : Nat :=
  let group := (records.of location entry).group
  if group ≠ 0 then 500000 + group
  else 1000 + (tree.entries.findIdx? (·.1 == location)).getD 0

/-- A text at the right of a column. -/
def atEnd (width : Nat) (text : Octets) : Octets :=
  List.replicate (width - text.length) ' ' ++ text

/-- The greatest length of texts. -/
def widest (texts : List Octets) : Nat :=
  texts.foldl (fun width text ↦ max width text.length) 0

end Scaffold.Shell.Utility
