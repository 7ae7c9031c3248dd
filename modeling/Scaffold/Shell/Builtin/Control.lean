import Scaffold.Shell.Builtin.Basic

/-!
# Leaving, moving and signals

The builtins that end loops, functions and scripts, those that go to other directories, and those
that send and catch signals.
-/

set_option autoImplicit false

namespace Scaffold.Shell.Builtin

open Text (Octets)
open Run

/-- Ends the script. -/
def exit : Builtin :=
  special "exit" fun operands ↦ do
    let status ← (operands.head?.map number).getD (return (← self).status)
    throw (.finished (status % 256))

/-- Ends the function that is running. -/
def «return» : Builtin :=
  special "return" fun operands ↦ do
    let status ← (operands.head?.map number).getD (return (← self).status)
    setStatus status
    throw .returned

/-- Leaves loops, or goes on with the next round of one. -/
def leaving (name : String) (isBreak : Bool) : Builtin :=
  special name fun operands ↦ do
    let levels ← (operands.head?.map number).getD (pure 1)
    if levels = 0 then fail ("Illegal number: ".toList ++ operands.headD [])
    setStatus 0
    let loops := (← self).loops
    if loops > 0 then throw (.leave isBreak (min levels loops))

/-- The absolute path without steps that lead nowhere or back. Two slashes at its front stay. -/
def normalized (path : Octets) : Octets :=
  let parts := (Text.pieces (· == '/') path).foldl (fun (parts : List Octets) part ↦
    if part.isEmpty || part == ['.'] then parts
    else if part == ['.', '.'] then parts.drop 1
    else part :: parts) []
  let slashes := (path.takeWhile (· == '/')).length
  let lead := if slashes = 2 then ['/'] else []
  lead ++ if parts.isEmpty then ['/'] else parts.reverse.flatMap ('/' :: ·)

/-- Goes to a directory, if there is one at the path. -/
def goTo (isPhysical : Bool) (path : Octets) : Run Bool := do
  let state ← get
  let process := state.process
  let place :=
    if path.head? = some '/' then path
    else if process.place.getLast? = some '/' then process.place ++ path
    else process.place ++ '/' :: path
  let place := normalized place
  let target := if isPhysical then pathOf path else pathOf place
  match state.world.tree.locate process.here target true with
  | .error _ => return false
  | .ok here =>
    if !state.world.tree.hasDirectory here then return false
    let place := if isPhysical then locationText here else place
    let held := fun (name : String) ↦
      (process.binding? name.toList).getD ⟨none, true, false⟩
    change fun process ↦
      let old := { held "OLDPWD" with value := some process.place }
      let new := { held "PWD" with value := some place }
      { (process.bind "OLDPWD".toList old).bind "PWD".toList new with here, place }
    return true

/-- Goes to another directory. -/
def cd : Builtin :=
  plain "cd" fun arguments ↦ do
    let (letters, operands) ←
      match arguments with
      | ['-'] :: _ => pure ([], arguments)
      | arguments => options ['L', 'P'] arguments
    let isPhysical := letters.getLast? = some 'P'
    let process ← self
    let isBack := operands.head? == some ['-']
    let given :=
      if isBack then process.setting "OLDPWD"
      else operands.head?.getD (process.setting "HOME")
    let target := if given.isEmpty then ['.'] else given
    let first := target.takeWhile (· != '/')
    let isPlain := first.isEmpty || first == ['.'] || first == ['.', '.']
    let searched :=
      if isPlain || isBack then [[]]
      else
        match process.value? "CDPATH".toList with
        | some directories => Text.pieces (· == ':') directories ++ [[]]
        | none => [[]]
    let paths := searched.map fun directory ↦
      if directory.isEmpty then target else directory ++ '/' :: target
    let rec visit : List Octets → Run Bool
      | [] => return false
      | path :: rest => do
        if ← goTo isPhysical path then
          if isBack || path != target then print ((← self).place ++ ['\n'])
          return true
        visit rest
    if ← visit paths then setStatus 0
    else fail ("can't cd to ".toList ++ target)

/-- Shows the directory. -/
def pwd : Builtin :=
  plain "pwd" fun arguments ↦ do
    let (letters, _) ← options ['L', 'P'] arguments
    let process ← self
    let shown :=
      if letters.getLast? = some 'P' then locationText process.here else process.place
    print (shown ++ ['\n'])

/-- Catches signals, or lists the commands for them. -/
def trap : Builtin :=
  special "trap" fun arguments ↦ do
    let (_, operands) ← options [] arguments
    match operands with
    | [] =>
      let sorted := (← self).traps.mergeSort fun first second ↦ first.1 ≤ second.1
      print (sorted.flatMap fun (signal, action) ↦
        "trap -- ".toList ++ quoted action ++ ' ' :: Signal.name signal ++ ['\n'])
    | first :: rest =>
      let isReset := rest.isEmpty || (Number.plain? first).isSome || first == ['-']
      let names := if rest.isEmpty || (Number.plain? first).isSome then operands else rest
      setStatus 0
      let rec visit : List Octets → Run Unit
        | [] => pure ()
        | name :: rest => do
          match Signal.ofText? name with
          | none =>
            let _ ← write 2 ("trap: ".toList ++ name ++ ": bad trap\n".toList)
            setStatus 1
          | some signal =>
            change fun process ↦
              let others := process.traps.filter (·.1 != signal)
              { process with
                traps := if isReset then others else (signal, first) :: others }
            visit rest
      visit names

/-- Sends a signal to a process. -/
def send (signal target : Nat) : Run Bool := do
  let state ← get
  let isJob := state.world.jobs.any (·.process.number == target)
  let now := state.world.elapsed
  let hasEnded := state.world.ended.any fun entry ↦ entry.1 == target && entry.2.time ≤ now
  let running? := state.world.ended.find? fun entry ↦ entry.1 == target && entry.2.time > now
  if isJob then
    if signal = 0 then return true
    changeWorld fun world ↦
      { world with
        jobs := world.jobs.filter (·.process.number != target)
        ended := (target, ⟨Signal.status signal, world.elapsed, some signal⟩) :: world.ended }
    return true
  else if let some (_, ending) := running? then
    if signal = 0 then return true
    changeWorld fun world ↦
      { world with
        busy := if world.busy = ending.time then now else world.busy
        ended := (target, ⟨Signal.status signal, now, some signal⟩) ::
          world.ended.filter (·.1 != target) }
    return true
  else if hasEnded || target ≥ state.world.nextProcess || target < firstProcess then return false
  else
    if signal != 0 then
      changeWorld fun world ↦ { world with signals := world.signals ++ [(target, signal)] }
    return true

/-- Lists the signals, or tells which one a status is about. -/
def listSignals (operands : List Octets) : Run Unit := do
  match operands with
  | [] =>
    print ('0' :: '\n' :: ((List.range 64).flatMap fun index ↦ Signal.name (index + 1) ++ ['\n']))
  | text :: _ =>
    let status ← number text
    let signal := if status > 128 then status - 128 else status
    if 0 < signal ∧ signal < Signal.names.length then print (Signal.name signal ++ ['\n'])
    else fail ("invalid signal number or exit status: ".toList ++ text)

/-- Sends a signal to the processes that operands name. -/
def sendAll (signal : Nat) (operands : List Octets) : Run Unit := do
  setStatus 0
  for operand in operands do
    let target ←
      match operand with
      | '%' :: _ => do
        match (← self).lastJob with
        | some job => pure job
        | none => fail ("No such job: ".toList ++ operand)
      | '-' :: group => number group
      | operand => number operand
    let shell := (← self).shell
    let target := if target = 0 then shell else target
    if !(← send signal target) then
      complain "No such process\n".toList
      setStatus 1

/-- Sends a signal to processes. -/
def kill : Builtin :=
  plain "kill" fun arguments ↦ do
    let usage := "Usage: kill [-s sigspec | -signum | -sigspec] [pid | job]... or\n" ++
      "kill -l [exitstatus]"
    let isName := fun (name : Octets) ↦ (Signal.ofText? name).any fun signal ↦
      signal != 0 || (Number.plain? name).isSome
    match arguments with
    | ('-' :: name) :: operands =>
      if isName name then
        if operands.isEmpty then fail usage.toList
        else sendAll ((Signal.ofText? name).getD 0) operands
      else
        let (found, operands) ← optionsWith ['l'] ['s'] arguments
        match (found.filter (·.1 == 's')).find? fun entry ↦ !isName entry.2 with
        | some (_, name) =>
          fail ("invalid signal number or name: ".toList ++ name)
        | none =>
          let given := (found.reverse.find? (·.1 == 's')).bind fun entry ↦ Signal.ofText? entry.2
          if found.any (·.1 == 'l') then listSignals operands
          else if operands.isEmpty then fail usage.toList
          else sendAll (given.getD Signal.terminate) operands
    | [] => fail usage.toList
    | operands => sendAll Signal.terminate operands

/-- The rights that a mask leaves, as letters. -/
def maskText (mask : Nat) : Octets :=
  let rights := fun (name : Char) (digit : Nat) ↦
    let left := 7 - digit % 8
    let letter := fun (weight : Nat) (c : Char) ↦ if left / weight % 2 = 1 then [c] else []
    name :: '=' :: letter 4 'r' ++ letter 2 'w' ++ letter 1 'x'
  rights 'u' (mask / 64) ++ ',' :: rights 'g' (mask / 8) ++ ',' :: rights 'o' mask

/-- The mask after a mode in letters, where a clause that says nothing about rights changes
nothing. -/
def changedMask? (mode : Octets) (mask : Nat) : Option Nat :=
  let isSaying := fun (clause : Octets) ↦ clause.any fun c ↦ !(['u', 'g', 'o', 'a'].contains c)
  let clauses := (Text.pieces (· == ',') mode).filter isSaying
  (clauses.foldlM (fun rights clause ↦ Rights.after? clause false 0 rights)
    (Rights.without 511 mask)).map fun rights ↦ Rights.without 511 rights

/-- Sets the rights that new files do not get, or shows them. -/
def umask : Builtin :=
  plain "umask" fun arguments ↦ do
    let (letters, operands) ← options ['S'] arguments
    match operands with
    | [] =>
      let mask := (← self).mask
      if letters.contains 'S' then print (maskText mask ++ ['\n'])
      else
        let digits := Number.digits 8 mask
        print (List.replicate (4 - digits.length) '0' ++ digits ++ ['\n'])
    | mode :: _ =>
      if mode.head?.any Char.isDigit then
        if mode.any fun c ↦ c < '0' || '7' < c then fail ("Illegal number: ".toList ++ mode)
        change fun process ↦ { process with mask := Text.digitsValue 8 mode % 512 }
        setStatus 0
      else
        match changedMask? mode (← self).mask with
        | some mask =>
          change fun process ↦ { process with mask }
          setStatus 0
        | none => fail ("Illegal mode: ".toList ++ mode)

/-- Shows how much time was used. -/
def times : Builtin :=
  special "times" fun _ ↦
    print "0m0.000000s 0m0.000000s\n0m0.000000s 0m0.000000s\n".toList

/-- Shows limits, of which there are none. -/
def ulimit : Builtin :=
  plain "ulimit" fun arguments ↦
    if arguments.any fun word ↦ word.head? != some '-' then setStatus 0
    else print "unlimited\n".toList

/-- The builtins for control. -/
def ofControl : List Builtin :=
  [exit, «return», leaving "break" true, leaving "continue" false, cd, pwd, trap, kill, umask,
    times, ulimit, plain "jobs" fun _ ↦ setStatus 0]

end Scaffold.Shell.Builtin
