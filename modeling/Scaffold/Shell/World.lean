import Scaffold.Shell.Signal
import Scaffold.Shell.Syntax
import Scaffold.Shell.Utility.Basic

/-!
# What scripts share

The processes of a script share files, channels and time. A channel is where octets are read from or
written to: a text, a collection of what is written, a file, or a device. A process has a table that
leads from descriptors to channels; processes that were started from one another share channels, so
that one reads on where another one stopped.
-/

set_option autoImplicit false

namespace Scaffold.Shell

open Text (Octets)

/-- Where octets are read from or written to. -/
inductive Channel
  /-- Nothing is read, and what is written is lost. -/
  | nothing
  /-- Nothing can be written. -/
  | full
  /-- Zeros are read without an end. -/
  | zeros
  /-- A text, from where it is read on. -/
  | source (rest : Octets)
  /-- What was written, the last part first, and how many octets more may be. -/
  | sink (written : List Octets) (room : Nat)
  /-- A pipe: what is written comes behind what was not read yet. -/
  | pipe (location : Location)
  /-- A file from an octet on, with its rest as it was after so many changes of the files. -/
  | file (location : Location) (offset : Nat) (appends : Bool) (seen : Option (Nat × Octets))
  deriving Repr

/-- A variable: its value, whether programs are told about it, and whether it may not change. -/
structure Binding where
  value : Option Octets
  isExported : Bool
  isReadOnly : Bool
  deriving DecidableEq, Repr

/-- What belongs to one process. -/
structure Process where
  number : Nat
  /-- The number of the process that the script runs in. -/
  shell : Nat
  script : Octets
  arguments : List Octets
  here : Location
  /-- The way that led to the directory. -/
  place : Octets
  bindings : List (Octets × Binding)
  /-- The variables of the function that is running, with what they were before. -/
  saved : List (Octets × Option Binding)
  /-- The options as they were before the function that is running, if it has its own. -/
  savedOptions : Option (List Char)
  /-- How many functions are running. -/
  level : Nat
  functions : List (Octets × Command)
  aliases : List (Octets × Octets)
  /-- The programs that were looked up, with their paths. -/
  hashed : List (Octets × Octets)
  /-- The commands for signals. -/
  traps : List (Nat × Octets)
  status : Nat
  /-- The status of the last output that a word stood for. -/
  outputStatus : Option Nat
  options : List Char
  /-- The status of the command is looked at, so that it may fail. -/
  isTested : Bool
  loops : Nat
  /-- The channel of each descriptor. -/
  descriptors : List (Nat × Nat)
  line : Nat
  /-- The command that messages are from. -/
  speaker : Octets
  /-- The argument at which options are read on, the first one being one. -/
  optionIndex : Nat
  /-- Where options are read on in the argument before, if they are. -/
  optionOffset : Option Nat
  lastJob : Option Nat
  /-- The rights that new files do not get. -/
  mask : Nat
  /-- How far the process gives way to others. -/
  niceness : Int

/-- A command that waits to be run apart. -/
structure Job where
  process : Process
  body : Command
  /-- When it was started. -/
  started : Nat

/-- The descriptors of a command with a redirection. A target that is known only when the command
runs counts as a file. -/
def Redirection.applied (descriptors : List (Nat × Nat)) : Redirection → List (Nat × Nat)
  | .file descriptor _ _ | .text descriptor _ => descriptors.filter (·.1 != descriptor)
  | .copy descriptor source =>
    let others := descriptors.filter (·.1 != descriptor)
    match source with
    | [.text digits _] =>
      match (Number.plain? digits).bind fun number ↦ descriptors.lookup number with
      | some channel => (descriptor, channel) :: others
      | none => others
    | _ => others

/-- A command that runs apart keeps one of the first two channels up to its end: the last of its
parts takes the place of the process, and a function, which is known by its name, does not. -/
def Command.keeps (isFunction : Octets → Bool) :
    (left : Nat) → Command → (descriptors : List (Nat × Nat)) → Bool
  | 0, _, _ => true
  | left + 1, command, descriptors =>
    let isHeld := descriptors.any fun entry ↦ entry.2 < 2
    let lastKeeps := fun (body : List Command) ↦
      match body.getLast? with
      | some last => last.keeps isFunction left descriptors
      | none => isHeld
    match command with
    | .simple _ _ words redirections =>
      let isOwn :=
        match words with
        | [.text name _] :: _ => isFunction name
        | _ => words.isEmpty
      if isOwn then isHeld
      else (redirections.foldl Redirection.applied descriptors).any fun entry ↦ entry.2 < 2
    | .redirected _ body redirections =>
      body.keeps isFunction left (redirections.foldl Redirection.applied descriptors)
    | .group body | .subshell body => lastKeeps body
    | .both _ second | .either _ second => second.keeps isFunction left descriptors
    | .choose _ yes no => lastKeeps yes || lastKeeps no
    | .select _ _ arms => arms.isEmpty && isHeld || arms.any fun arm ↦ lastKeeps arm.2
    | .pipeline commands =>
      let inner := descriptors.filter (·.1 != 1)
      lastKeeps commands || commands.dropLast.any fun stage ↦ stage.keeps isFunction left inner
    | _ => isHeld

/-- The job keeps one of the first two channels up to its end. -/
def Job.keepsOutput (job : Job) : Bool :=
  let isFunction := fun (name : Octets) ↦ (job.process.functions.lookup name).isSome
  job.body.keeps isFunction 100 job.process.descriptors

/-- How a process ended: its status, when that was, and the signal if one ended it. -/
structure Ending where
  status : Nat
  time : Nat
  signal : Option Nat

/-- What the processes of a script share. Times are in microseconds. -/
structure World where
  tree : FileTree
  /-- What is known about the files. -/
  records : Records
  /-- How often the files were changed. -/
  changes : Nat
  channels : Array Channel
  elapsed : Nat
  limit : Nat
  nextProcess : Nat
  /-- The signals that were sent and have not had an effect yet, each with its process. -/
  signals : List (Nat × Nat)
  jobs : List Job
  /-- The processes that have ended. -/
  ended : List (Nat × Ending)
  /-- The signal that ended the last process, if one did. -/
  death : Option Nat
  /-- When the last job with one of the first two channels ended. -/
  busy : Nat

/-- What comes of writing. -/
inductive WriteOutcome
  | written
  /-- Nobody reads any more. -/
  | broken
  | refused
  deriving DecidableEq, Repr

/-- The number of the first process. -/
def firstProcess : Nat := 1000

namespace World

/-- The time in microseconds. -/
def now (world : World) : Int :=
  startOfTime + world.elapsed

/-- The world with other files, of which new ones do not get the rights in a mask. -/
def withTree (world : World) (tree : FileTree) (mask : Nat) : World :=
  let records := world.records.follow world.tree tree world.now mask
  { world with tree, records, changes := world.changes + 1 }

/-- The world with another entry at the location of a file, and at those of the files that are
linked to it. -/
def withFile (world : World) (location : Location) (entry : Entry) : World :=
  let record := { world.records.of location entry with changed := world.now }
  let others :=
    if record.group = 0 then []
    else (world.records.filter fun other ↦
      other.2.group == record.group && other.1 != location).map (·.1)
  (location :: others).foldl (fun world location ↦
    { world with
      tree := world.tree.put location entry, records := world.records.put location record
      changes := world.changes + 1 }) world

/-- The world with one more channel. -/
def openChannel (world : World) (channel : Channel) : Nat × World :=
  (world.channels.size, { world with channels := world.channels.push channel })

/-- The world with a channel changed. -/
def setChannel (world : World) (index : Nat) (channel : Channel) : World :=
  { world with channels := world.channels.setIfInBounds index channel }

/-- What is left to read of a file. -/
def fileRest (world : World) (location : Location) (offset : Nat)
    (seen : Option (Nat × Octets)) : Octets :=
  match seen with
  | some (changes, rest) =>
    if changes = world.changes then rest
    else
      match world.tree.find? location with
      | some (.file octets _) => Octets.ofBytes (octets.drop offset)
      | _ => rest
  | none =>
    match world.tree.find? location with
    | some (.file octets _) => Octets.ofBytes (octets.drop offset)
    | _ => []

/-- What is left to read of a channel; zeros have no end, and `count` of them are enough. -/
def contents (world : World) (index count : Nat) : Octets :=
  match world.channels[index]? with
  | some (.source rest) => rest
  | some (.file location offset _ seen) => world.fileRest location offset seen
  | some (.pipe location) => world.fileRest location 0 none
  | some .zeros => List.replicate count '\x00'
  | _ => []

/-- A channel leads to a file. -/
def isFile (world : World) (index : Nat) : Bool :=
  (world.channels[index]?).any fun channel ↦ (channel matches .file _ _ _ _)

/-- The location is that of a pipe. -/
def isPipe (world : World) (location : Location) : Bool :=
  (world.records.lookup location).any (·.isPipe)

/-- The world with other contents of a file. -/
def refill (world : World) (location : Location) (contents : Octets) : World :=
  match world.tree.find? location with
  | some (.file _ isExecutable) =>
    world.withFile location (.file (Octets.toBytes contents) isExecutable)
  | _ => world

/-- The world after so many octets of a channel were read, and `rest` is left. -/
def leave (world : World) (index count : Nat) (rest : Octets) : World :=
  match world.channels[index]? with
  | some (.source _) => world.setChannel index (.source rest)
  | some (.pipe location) => world.refill location rest
  | some (.file location offset appends _) =>
    world.setChannel index
      (.file location (offset + count) appends (some (world.changes, rest)))
  | _ => world

/-- The octets of a file with others written over them from an offset on. -/
def written (held octets : List UInt8) (offset : Nat) : List UInt8 :=
  let length := held.length
  if offset = length then held ++ octets
  else
    held.take offset ++ List.replicate (offset - length) 0 ++ octets ++
      held.drop (offset + octets.length)

/-- The octets that a text takes up at least in a channel that collects what is written. -/
def leastCost : Nat := 64

/-- Writes to a channel. -/
def write (world : World) (index : Nat) (octets : Octets) : WriteOutcome × World :=
  match world.channels[index]? with
  | some .nothing | some .zeros => (.written, world)
  | some .full => (if octets.isEmpty then .written else .refused, world)
  | some (.sink parts room) =>
    let cost := max leastCost octets.length
    if cost ≤ room then
      (.written, world.setChannel index (.sink (octets :: parts) (room - cost)))
    else (.broken, world.setChannel index (.sink (octets.take room :: parts) 0))
  | some (.file location offset appends _) =>
    match world.tree.find? location with
    | some (.file held isExecutable) =>
      let octets := Octets.toBytes octets
      let contents := if appends then held ++ octets else written held octets offset
      let world := world.withFile location (.file contents isExecutable)
      (.written, world.setChannel index (.file location (offset + octets.length) appends none))
    | _ => (.written, world)
  | some (.pipe location) =>
    (.written, world.refill location (world.fileRest location 0 none ++ octets))
  | some (.source _) | none => (.refused, world)

/-- What was written to a channel that collects it. -/
def collected (world : World) (index : Nat) : Octets :=
  match world.channels[index]? with
  | some (.sink parts _) => parts.reverse.flatten
  | _ => []

end World

end Scaffold.Shell
