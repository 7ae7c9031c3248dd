import Scaffold.Shell.World

/-!
# The state of a running script

A command runs in a process, in a world that it shares with others (`State`). `Run` is a part of
such a run: it changes the state, and it may stop what is running (`Stop`). Every program that is
started takes a millisecond and every other command some microseconds, and a run whose time is used
up is stopped.
-/

set_option autoImplicit false

namespace Scaffold.Shell

open Text (Octets)

/-- A process in its world. -/
structure State where
  world : World
  process : Process

/-- Why commands are not carried on with. -/
inductive Stop
  /-- The process ends. -/
  | finished (status : Nat)
  /-- The process ends since a command of the shell could not be carried out. -/
  | failed (status : Nat)
  /-- A signal ends the process. -/
  | killed (signal : Nat)
  /-- Loops end, or begin their next round. -/
  | leave (isBreak : Bool) (levels : Nat)
  /-- A function or a script that was read in ends. -/
  | returned
  /-- There is nothing to read in a pipe, and nobody who will write. -/
  | starved
  /-- The time is used up. -/
  | timedOut
  deriving DecidableEq, Repr

/-- A part of the run of a script. -/
abbrev Run := EStateM Stop State

namespace Process

/-- What is known about a variable. -/
def binding? (process : Process) (name : Octets) : Option Binding :=
  process.bindings.lookup name

/-- The value of a variable. -/
def value? (process : Process) (name : Octets) : Option Octets :=
  (process.binding? name).bind (·.value)

/-- The process knows where a program is. -/
def remember (process : Process) (name path : Octets) : Process :=
  if (process.hashed.lookup name).isSome then process
  else { process with hashed := (name, path) :: process.hashed }

/-- The value of a variable that a program of the system knows by this name. -/
def setting (process : Process) (name : String) : Octets :=
  (process.value? name.toList).getD []

/-- The process without a variable. -/
def forget (process : Process) (name : Octets) : Process :=
  { process with bindings := process.bindings.filter (·.1 != name) }

/-- The process with a variable as described. -/
def bind (process : Process) (name : Octets) (binding : Binding) : Process :=
  { process with bindings := (name, binding) :: process.bindings.filter (·.1 != name) }

/-- The process with a variable as it was. -/
def restore (process : Process) (entry : Octets × Option Binding) : Process :=
  match entry.2 with
  | some binding => process.bind entry.1 binding
  | none => process.forget entry.1

/-- The process with the value of a variable set. -/
def assign (process : Process) (name value : Octets) : Process :=
  let isShared := process.options.contains 'a'
  let binding :=
    match process.binding? name with
    | some held =>
      { held with value := some value, isExported := held.isExported || isShared }
    | none => ⟨some value, isShared, false⟩
  let process := process.bind name binding
  if name = "OPTIND".toList then
    let optionIndex := max 1 ((Number.plain? value).getD 1)
    { process with optionIndex, optionOffset := none }
  else if name = "PATH".toList then { process with hashed := [] }
  else process

/-- The shelf that a variable is kept on; programs are told about variables shelf by shelf. -/
def variableShelf (name : Octets) : Nat :=
  ((name.headD '\x00').toNat * 16 + name.foldl (fun sum c ↦ sum + c.toNat) 0) % 39

/-- The variables that programs are told about. -/
def settings (process : Process) : List (Octets × Octets) :=
  let told := process.bindings.filterMap fun (name, binding) ↦
    if binding.isExported then binding.value.map fun value ↦ (name, value) else none
  told.mergeSort fun first second ↦ variableShelf first.1 ≤ variableShelf second.1

/-- The option is on. -/
def has (process : Process) (option : Char) : Bool :=
  process.options.contains option

/-- The letters of the options in the order in which they are shown. -/
def optionLetters : List Char :=
  ['u', 'b', 'a', 'C', 'E', 'V', 'v', 'x', 's', 'n', 'm', 'i', 'I', 'f', 'e']

/-- The value of a parameter, if it is set. -/
def parameter? (process : Process) (name : Octets) : Option Octets :=
  match name with
  | ['#'] => some (Number.digits 10 process.arguments.length)
  | ['?'] => some (Number.digits 10 process.status)
  | ['$'] => some (Number.digits 10 process.shell)
  | ['!'] => process.lastJob.map (Number.digits 10)
  | ['-'] => some (optionLetters.filter process.has)
  | name =>
    match Number.plain? name with
    | some 0 => some process.script
    | some index => process.arguments[index - 1]?
    | none => process.value? name

/-- The process of a subshell: it keeps no command for a signal, but ignores what was ignored. -/
def subshell (process : Process) (number : Nat) : Process :=
  { process with number, traps := process.traps.filter (·.2.isEmpty) }

/-- The channel of a descriptor. -/
def channel? (process : Process) (descriptor : Nat) : Option Nat :=
  process.descriptors.lookup descriptor

/-- The process without a descriptor. -/
def close (process : Process) (descriptor : Nat) : Process :=
  { process with descriptors := process.descriptors.filter (·.1 != descriptor) }

/-- The process with a descriptor that leads to a channel. -/
def connect (process : Process) (descriptor channel : Nat) : Process :=
  { process with
    descriptors := (descriptor, channel) :: process.descriptors.filter (·.1 != descriptor) }

/-- The place in the script, as it begins a message. -/
def location (process : Process) : Octets :=
  process.script ++ [':', ' '] ++ Number.digits 10 process.line ++ [':', ' ']

end Process

namespace Run

/-- The process that is running. -/
def self : Run Process := do
  return (← get).process

/-- The world it is running in. -/
def world : Run World := do
  return (← get).world

/-- Changes the process. -/
def change (edit : Process → Process) : Run Unit :=
  modify fun state ↦ { state with process := edit state.process }

/-- Changes the world. -/
def changeWorld (edit : World → World) : Run Unit :=
  modify fun state ↦ { state with world := edit state.world }

/-- Sets the status. -/
def setStatus (status : Nat) : Run Unit :=
  change fun process ↦ { process with status }

/-- Notes the signal that ended a process, or that none did. -/
def die (signal : Option Nat) : Run Unit :=
  changeWorld fun world ↦ { world with death := signal }

/-- Lets microseconds pass. -/
def spend (duration : Nat) : Run Unit := fun state ↦
  let elapsed := state.world.elapsed + duration
  let state := { state with world := { state.world with elapsed } }
  if elapsed ≥ state.world.limit then .error .timedOut state else .ok () state

/-- Opens a channel. -/
def openChannel (channel : Channel) : Run Nat := fun state ↦
  let (index, world) := state.world.openChannel channel
  .ok index { state with world }

/-- Writes to a descriptor, and tells whether that was possible. Where nobody reads, the process
ends. -/
def write (descriptor : Nat) (octets : Octets) : Run Bool := fun state ↦
  match state.process.channel? descriptor with
  | none => .ok octets.isEmpty state
  | some index =>
    let (outcome, world) := state.world.write index octets
    let state := { state with world }
    match outcome with
    | .written => .ok true state
    | .refused => .ok false state
    | .broken => .error (.killed Signal.brokenPipe) state

/-- Shows a message about the place in the script, and of the command that is running. -/
def complain (message : Octets) : Run Unit := do
  let process ← self
  let lead := if process.speaker.isEmpty then [] else process.speaker ++ [':', ' ']
  let _ ← write 2 (process.location ++ lead ++ message ++ ['\n'])

/-- Shows a message of the command that is running, and stops the process. -/
def fail {α : Type} (message : Octets) : Run α := do
  complain message
  throw (.failed 2)

/-- Prints what a command of the shell has to say. -/
def print (octets : Octets) : Run Unit := do
  if ← write 1 octets then setStatus 0
  else
    let speaker := (← self).speaker
    complain (speaker ++ Octets.ofText ": I/O error")
    setStatus 1

/-- What is left to read at a descriptor. -/
def unread (descriptor count : Nat) : Run Octets := do
  let state ← get
  match state.process.channel? descriptor with
  | some index => return state.world.contents index count
  | none => return []

/-- Leaves what is not read at a descriptor, after so many octets that were. -/
def leaveUnread (descriptor count : Nat) (rest : Octets) : Run Unit := do
  match (← self).channel? descriptor with
  | some index => changeWorld (·.leave index count rest)
  | none => pure ()

/-- Sets a variable that may be changed. -/
def assign (name value : Octets) : Run Unit := do
  let process ← self
  if (process.binding? name).any (·.isReadOnly) then
    fail (name ++ Octets.ofText ": is read only")
  else change (·.assign name value)

/-- What a program works on that is called by a name. -/
def taskOf (name : Octets) (arguments : List Octets) (settings : List (Octets × Octets)) :
    Run Task := do
  let state ← get
  let index? := state.process.channel? 0
  let channel? := fun (descriptor : Nat) ↦
    (state.process.channel? descriptor).bind fun index ↦ state.world.channels[index]?
  return {
    name := String.ofList name
    arguments
    tree := state.world.tree
    here := state.process.here
    input := (index?.map (state.world.contents · deviceRoom)).getD []
    readsFile := index?.any state.world.isFile
    settings
    records := state.world.records
    now := state.world.now
    mask := state.process.mask
    niceness := state.process.niceness
    hasInput := index?.isSome
    inputPlace :=
      match channel? 0 with
      | some (.file location offset _ _) => some (location, offset)
      | _ => none
    outputPlace :=
      match channel? 1 with
      | some (.file location offset appends _) =>
        some (location, if appends then none else some offset)
      | _ => none }

/-- Changes the files. -/
def changeTree (tree : FileTree) : Run Unit := do
  let mask := (← self).mask
  changeWorld (·.withTree tree mask)

/-- The process writes to others, who may have stopped reading. -/
def feedsOthers : Run Bool := fun state ↦
  let isSink :=
    match (state.process.channel? 1).bind (state.world.channels[·]?) with
    | some (.sink _ _) => true
    | _ => false
  .ok isSink state

/-- Lets a program leave its effect; `failure` is its status if it cannot write. -/
def leave (task : Task) (failure : Nat) (effect : Effect) : Run Unit := do
  let count := task.input.length - effect.input.length
  if count > 0 then leaveUnread 0 count effect.input
  if let some tree := effect.tree then changeTree tree
  for (location, record) in effect.records do
    changeWorld fun world ↦ { world with records := world.records.put location record }
  let mut isWritten := true
  for (descriptor, text) in effect.written do
    if !(← write descriptor text) && descriptor = 1 then isWritten := false
  if !isWritten then
    let isOpen := ((← self).channel? 1).isSome
    let error : SystemError := if isOpen then .noRoom else .badDescriptor
    let _ ← write 2 (task.message (task.unwritten error))
  if effect.hasNoEnd && (← feedsOthers) then throw (.killed Signal.brokenPipe)
  spend (1000 * effect.duration)
  setStatus (if isWritten then effect.status else max effect.status failure)

/-- Runs a utility in the process. -/
def utility (utility : Utility) (name : Octets) (arguments : List Octets)
    (settings : List (Octets × Octets)) : Run Unit := do
  let task ← taskOf name arguments settings
  leave task utility.failure (utility.run task)

/-- Runs commands whose status is looked at. -/
def tested (body : Run Unit) : Run Nat := do
  let before := (← self).isTested
  change fun process ↦ { process with isTested := true }
  body
  change fun process ↦ { process with isTested := before }
  return (← self).status

/-- Stops a strict script after a command that failed. -/
def checkStrict : Run Unit := do
  let process ← self
  if process.has 'e' && !process.isTested && process.status != 0 then
    throw (.finished process.status)

/-- Runs a round of a loop, which tells whether there is another one; none if the loop is left. A
round that is broken off for the next one has another one. -/
def once (body : Run Bool) : Run (Option Bool) := fun state ↦
  match body state with
  | .error (.leave isBreak levels) inner =>
    if levels ≤ 1 then .ok (if isBreak then none else some true) inner
    else .error (.leave isBreak (levels - 1)) inner
  | .error stop inner => .error stop inner
  | .ok goesOn inner => .ok (some goesOn) inner

/-- Runs a body for each item as long as it asks for more. -/
def forEach {α : Type} (body : α → Run Bool) : List α → Run Unit
  | [] => pure ()
  | item :: rest => do
    if ← body item then forEach body rest

/-- Runs a process of its own, and goes on with the one that was running when it has ended. Its
status is what is left of it. -/
def apart (edit : Process → Process) (body : Run Nat) : Run Nat := do
  let outer ← self
  let number := (← world).nextProcess
  changeWorld fun world ↦ { world with nextProcess := number + 1 }
  change fun process ↦ edit (process.subshell number)
  let status ← body
  change fun _ ↦ outer
  return status

end Run

end Scaffold.Shell
