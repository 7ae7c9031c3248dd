import Scaffold.Shell.Expansion
import Scaffold.Files.Change

/-!
# Redirections

A redirection leads a descriptor to a channel while a command runs. `redirectAll` opens redirections
one after the other up to the first one that is refused, and `withRedirections` runs a command with
them.
-/

set_option autoImplicit false

namespace Scaffold.Shell.Run

open Text (Octets)

/-- The descriptor that a path of a device names. -/
def namedDescriptor? (path : Octets) : Option Nat :=
  match String.ofList path with
  | "/dev/stdin" => some 0
  | "/dev/stdout" => some 1
  | "/dev/stderr" => some 2
  | _ =>
    if "/dev/fd/".toList.isPrefixOf path then Number.plain? (path.drop 8)
    else if "/proc/self/fd/".toList.isPrefixOf path then Number.plain? (path.drop 14)
    else none

/-- The channel that a path of a device leads to. -/
def device? (path : Octets) : Option Channel :=
  match String.ofList path with
  | "/dev/null" => some .nothing
  | "/dev/full" => some .full
  | "/dev/zero" => some .zeros
  | "/dev/random" | "/dev/urandom" => some (.source (noise 65536 3))
  | _ => none

/-- A message about a file that cannot be opened, where a part of the path is missing. -/
def openMessage (verb : String) (missing : String) (path : Octets) (error : SystemError) :
    Octets :=
  let reason :=
    match error with
    | .notFound | .notDirectory => missing
    | error => error.reason
  (verb ++ " ").toList ++ path ++ (": " ++ reason).toList

/-- What can be read in a pipe; while it is empty, others go on first. -/
def drained (goesOn : Run Unit) (location : Location) : Run Octets := do
  let before ← world
  if (before.fileRest location 0 none).isEmpty then
    goesOn
    let after ← world
    let isOver := after.jobs.length == before.jobs.length
    if isOver && (after.fileRest location 0 none).isEmpty then throw .starved
  let found := (← world).fileRest location 0 none
  changeWorld (·.refill location [])
  return found

/-- Opens a pipe. -/
def openPipe (goesOn : Run Unit) (mode : FileMode) (location : Location) : Run Nat := do
  if mode = .read then openChannel (.source (← drained goesOn location))
  else openChannel (.pipe location)

/-- Opens a file; where it is an empty pipe, others go on first. -/
def openFile (goesOn : Run Unit) (mode : FileMode) (path : Octets) : Run (Except Octets Nat) := do
  let state ← get
  if let some descriptor := namedDescriptor? path then
    match state.process.channel? descriptor with
    | some channel => return .ok channel
    | none =>
      return .error (openMessage (if mode == .read then "cannot open" else "cannot create")
        "No such file" path .notFound)
  if let some channel := device? path then return .ok (← openChannel channel)
  if path = "/dev/tty".toList then
    return .error (openMessage (if mode == .read then "cannot open" else "cannot create") "" path
      .noDevice)
  let tree := state.world.tree
  let here := state.process.here
  if mode = .read then
    match tree.locate here (pathOf path) true with
    | .error error => return .error (openMessage "cannot open" "No such file" path error)
    | .ok location =>
      if state.world.isPipe location then return .ok (← openPipe goesOn mode location)
      return .ok (← openChannel (.file location 0 false none))
  else
    let refuse := fun (error : SystemError) ↦
      (.error (openMessage "cannot create" "Directory nonexistent" path error) :
        Except Octets Nat)
    match tree.locateWritable FileTree.linkLimit here (pathOf path) with
    | .error error => return refuse error
    | .ok location =>
      if state.world.isPipe location then return .ok (← openPipe goesOn mode location)
      let write := fun (octets : List UInt8) (isExecutable : Bool) ↦
        changeWorld (·.withFile location (.file octets isExecutable))
      match tree.find? location with
      | some (.file _ isExecutable) =>
        match mode with
        | .append | .update => pure ()
        | .make =>
          if state.process.has 'C' then return refuse .exists
          write [] isExecutable
        | _ => write [] isExecutable
      | none => changeTree (tree.put location (.file [] false))
      | _ => return refuse .isDirectory
      return .ok (← openChannel (.file location 0 (mode == .append) none))

/-- The descriptor that a redirection is about. -/
def descriptorOf : Redirection → Nat
  | .file descriptor _ _ | .copy descriptor _ | .text descriptor _ => descriptor

/-- The text that a redirection leads to; that of a here text is found when it is opened. -/
def targetOf (runs : List Command → Run Octets) (redirection : Redirection) : Run Octets := do
  match redirection with
  | .text _ _ => return []
  | .file _ _ target => expandText runs target
  | .copy _ source =>
    let source ← expandText runs source
    if source != ['-'] && (Number.plain? source).isNone then
      refuse ("Syntax error: Bad fd number".toList)
    else return source

/-- Expands a here text, or tells that this failed. -/
def hereText? (runs : List Command → Run Octets) (body : Word) : Run (Option Octets) := fun state ↦
  match expandText runs body state with
  | .ok text inner => .ok (some text) inner
  | .error (.failed _) inner => .ok none inner
  | .error stop inner => .error stop inner

/-- Opens redirections with their targets one after the other, and tells whether all could be
opened. -/
def openAll (runs : List Command → Run Octets) (goesOn : Run Unit) :
    List (Redirection × Octets) → Run Bool
  | [] => return true
  | (redirection, target) :: rest => do
    match redirection with
    | .text descriptor body =>
      match ← hereText? runs body with
      | none => return false
      | some text =>
        let channel ← openChannel (.source text)
        change (·.connect descriptor channel)
        openAll runs goesOn rest
    | .copy descriptor _ =>
      match Number.plain? target with
      | none =>
        change (·.close descriptor)
        openAll runs goesOn rest
      | some other =>
        match (← self).channel? other with
        | some channel =>
          change (·.connect descriptor channel)
          openAll runs goesOn rest
        | none =>
          complain (target ++ ": Bad file descriptor".toList)
          return false
    | .file descriptor mode _ =>
      match ← openFile goesOn mode target with
      | .ok channel =>
        change (·.connect descriptor channel)
        openAll runs goesOn rest
      | .error message =>
        complain message
        return false

/-- Opens redirections, and tells whether all could be opened. -/
def redirectAll (runs : List Command → Run Octets) (goesOn : Run Unit)
    (redirections : List Redirection) : Run Bool := do
  let targets ← redirections.mapM (targetOf runs)
  openAll runs goesOn (redirections.zip targets)

/-- The descriptors as they were before redirections. -/
def reconnected (before : List (Nat × Nat)) (redirections : List Redirection)
    (process : Process) : Process :=
  redirections.foldl (fun process redirection ↦
    let descriptor := descriptorOf redirection
    match before.lookup descriptor with
    | some channel => process.connect descriptor channel
    | none => process.close descriptor) process

/-- Runs a body after redirections, which end with it; a redirection that is refused leaves a
status. -/
def withRedirections (runs : List Command → Run Octets) (goesOn : Run Unit)
    (redirections : List Redirection) (body : Run Unit) : Run Unit := do
  let before := (← self).descriptors
  if ← redirectAll runs goesOn redirections then
    fun state ↦
      match body state with
      | .ok _ inner =>
        .ok () { inner with process := reconnected before redirections inner.process }
      | .error stop inner =>
        .error stop { inner with process := reconnected before redirections inner.process }
  else
    change (reconnected before redirections)
    setStatus 2

end Scaffold.Shell.Run
