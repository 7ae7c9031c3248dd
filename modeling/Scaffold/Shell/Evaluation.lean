import Scaffold.Shell.Builtin.Answers
import Scaffold.Shell.Invocation
import Scaffold.Shell.Launcher
import Scaffold.Shell.Reader
import Scaffold.Shell.Redirection

/-!
# Running commands

The tools that a machine runs are scripts (`Machine.run`), and this is how a script runs: in the
grammar and with the expansions, redirections, traps and builtin commands of the standard shell.
`command` runs a command, at most so deep; a script that goes deeper counts as one whose time is
used up. What runs other commands is written for any function `execute` that runs one. A subshell
and every program is a process of its own (`apart`), which ends with a status (`ended`). The stages
of a pipeline run one after the other, each on what the one before it printed, and a command in the
background runs when something waits for it (`settle`).
-/

set_option autoImplicit false

namespace Scaffold.Shell.Run

open Text (Octets)

/-- The microseconds that a command of the shell takes. -/
def commandTime : Nat := 10

/-- The microseconds that it takes to start a process. -/
def processTime : Nat := 300

/-- The microseconds that it takes to start a program. -/
def programTime : Nat := 1000

/-- The octets that a pipe or an output holds before its writer is stopped. -/
def pipeRoom : Nat := 8388608

/-- The functions that may be running at a time. -/
def functionLimit : Nat := 1000

/-! ### Scripts and processes -/

/-- Runs the lines of a script, in so many steps. -/
def runLines (execute : Command → Run Unit) (bound : Nat) : (left : Nat) → Source → Run Unit
  | 0, _ => throw .timedOut
  | left + 1, source => do
    let source := { source with aliases := (← self).aliases }
    let echo := fun (text : Octets) ↦ do
      if (← self).has 'v' then
        let _ ← write 2 text
    match Source.next bound source with
    | .finished => echo source.rest
    | .refused line message =>
      echo source.rest
      change fun process ↦ { process with line }
      fail ("Syntax error: ".toList ++ message)
    | .commands body after =>
      echo (source.rest.take (source.rest.length - after.rest.length))
      body.forM execute
      runLines execute bound left after

/-- Runs the text of a script. -/
def runText (execute : Command → Run Unit) (text : Octets) : Run Unit :=
  runLines execute (Source.bound text) (text.length + 2) (Source.ofText 1 text)

/-- Runs the text of a script; one without commands has the status zero. -/
def runHeld (execute : Command → Run Unit) (text : Octets) : Run Unit :=
  match (Reader.skipLines *> Reader.rest).run (Source.ofText 1 text) with
  | .ok [] _ => setStatus 0
  | _ => runText execute text

/-- Runs a body as a whole process, and tells how it ended; the status if it was not by a signal. -/
def stopped (body : Run Unit) : Run (Nat × Bool) := fun state ↦
  match body state with
  | .ok _ inner => .ok (inner.process.status, true) inner
  | .error stop inner =>
    match stop with
    | .finished status | .failed status => .ok (status, true) inner
    | .killed signal => .ok (Signal.status signal, false) inner
    | .leave _ _ | .returned => .ok (inner.process.status, true) inner
    | .timedOut | .starved => .error stop inner

/-- Runs a body as a whole process, with the command for its end, and gives its status. -/
def ended (execute : Command → Run Unit) (body : Run Unit) : Run Nat := do
  let (status, isPlain) ← stopped body
  die (if isPlain then none else some (status - Signal.status 0))
  let status := status % 256
  match (← self).traps.lookup 0 with
  | none => return status
  | some action =>
    if !isPlain then return status
    change fun process ↦
      { process with
        status, loops := 0, level := 0, traps := process.traps.filter (·.1 != 0) }
    let (last, _) ← stopped do
      runText execute action
      setStatus status
    return last % 256

/-- Runs a body that may not end well as a process that has to end by some time, and gives what it
gives; none if it is stopped. -/
def within {α : Type} (limit : Nat) (body : Run α) : Run (Option α) := fun state ↦
  let world := { state.world with limit := min limit state.world.limit }
  let back := fun (inner : State) ↦
    { inner with world := { inner.world with limit := state.world.limit } }
  match body { state with world } with
  | .ok value inner => .ok (some value) (back inner)
  | .error .timedOut inner | .error .starved inner =>
    if limit < state.world.limit then
      let world := { (back inner).world with elapsed := max state.world.elapsed limit }
      .ok none { world, process := state.process : State }
    else .error .timedOut (back inner)
  | .error stop inner => .error stop (back inner)

/-- Runs a process that the one that is running waits for, which tells of the signal if one ended
it. -/
def mourned (body : Run Nat) : Run Nat := do
  let status ← body
  if let some signal := (← world).death then
    die none
    let _ ← write 2 (Signal.obituary signal)
  return status

/-! ### Jobs -/

/-- Runs a job, and comes back to the time before it; tells whether it could be run, and leaves all
as it was if it would starve. -/
def runJob (execute : Command → Run Unit) (job : Job) : Run Bool := fun state ↦
  let now := state.world.elapsed
  let back := fun (status : Nat) (inner : State) ↦
    let finish := inner.world.elapsed
    let holds := job.keepsOutput && inner.process.descriptors.any fun entry ↦ entry.2 < 2
    let world :=
      { inner.world with
        elapsed := now
        busy := if holds then max inner.world.busy finish else inner.world.busy
        death := state.world.death
        ended := (job.process.number, ⟨status, finish, inner.world.death⟩) :: inner.world.ended }
    { world, process := state.process : State }
  let world := { state.world with elapsed := job.started }
  let start : State := { world, process := job.process }
  match ended execute (execute job.body) start with
  | .ok status inner => .ok true (back status inner)
  | .error .starved _ => .ok false state
  | .error _ inner =>
    let world := { inner.world with death := some Signal.kill }
    .ok true (back (Signal.status Signal.kill) { inner with world })

/-- Runs the jobs that wait, and those that they start; `starved` are jobs that could not be run
since the last one that was. -/
def settleAll (execute : Command → Run Unit) : (left : Nat) → (starved : List Job) → Run Unit
  | 0, _ => throw .timedOut
  | left + 1, starved => do
    match (← world).jobs with
    | [] => changeWorld fun world ↦ { world with jobs := starved }
    | job :: rest =>
      changeWorld fun world ↦ { world with jobs := rest }
      if ← runJob execute job then
        changeWorld fun world ↦ { world with jobs := world.jobs ++ starved }
        settleAll execute left []
      else settleAll execute left (starved ++ [job])

/-- Runs the jobs that wait, and those that they start. -/
def settle (execute : Command → Run Unit) : Run Unit := do
  settleAll execute (← world).limit []

/-- Waits for the processes with these numbers, or for all, and gives the status of the last one. -/
def waitFor (execute : Command → Run Unit) (numbers : Option (List Nat)) : Run Nat := do
  settle execute
  let ended := (← world).ended
  let lacks := fun (job : Job) ↦ numbers.all (·.contains job.process.number)
  if (← world).jobs.any lacks then throw .starved
  match numbers with
  | none =>
    let last := ended.foldl (fun time entry ↦ max time entry.2.time) (← world).elapsed
    spend (last - (← world).elapsed)
    return 0
  | some numbers =>
    let mut status := 0
    for number in numbers do
      match ended.lookup number with
      | some ending =>
        spend (ending.time - (← world).elapsed)
        die ending.signal
        status ← mourned (pure ending.status)
      | none => status := 127
    return status

/-! ### Output and pipelines -/

/-- What commands print in a process of their own. -/
def capture (execute : Command → Run Unit) (script : List Command) : Run Octets := do
  spend processTime
  let channel ← openChannel (.sink [] pipeRoom)
  let edit := fun (process : Process) ↦
    { process.connect 1 channel with isTested := false }
  let status ← mourned (apart edit (ended execute (script.forM execute)))
  settle execute
  let printed := (← world).collected channel
  changeWorld (·.setChannel channel .nothing)
  change fun process ↦ { process with outputStatus := some status }
  return printed.filter (· != '\x00')

/-- Runs the stages of a pipeline, where the first one may read what was printed before. -/
def stages (execute : Command → Run Unit) : (input : Option Nat) → List Command → Run Nat
  | _, [] => return 0
  | input, first :: rest => do
    spend processTime
    let reading := fun (process : Process) ↦
      match input with
      | some channel => process.connect 0 channel
      | none => process
    if rest.isEmpty then mourned (apart reading (ended execute (execute first)))
    else
      let channel ← openChannel (.sink [] pipeRoom)
      let _ ← mourned <| apart (fun process ↦ (reading process).connect 1 channel)
        (ended execute (execute first))
      settle execute
      changeWorld fun world ↦ world.setChannel channel (.source (world.collected channel))
      stages execute (some channel) rest

/-! ### Programs -/

/-- The script that a shell is to run, or a message that there is none. -/
def scriptOf (body : Body) : Run (Except Octets Octets) := do
  let state ← get
  match body with
  | .command text => return .ok text
  | .input =>
    let text ← unread 0 pipeRoom
    leaveUnread 0 text.length []
    return .ok text
  | .file path =>
    match state.world.tree.entryAt state.process.here (pathOf path) with
    | .ok (.file octets _) => return .ok (Octets.ofBytes octets)
    | .ok _ => return .ok []
    | .error error => return .error (openMessage "cannot open" "No such file" path error)

/-- Refuses to start a shell that is called by a name. -/
def refuseShell (name message : Octets) : Run Unit := do
  let _ ← write 2 (name ++ ": 0: ".toList ++ message ++ ['\n'])
  setStatus 2

/-- Runs a shell that is called by a name. -/
def shell (execute : Command → Run Unit) (name : Octets) (arguments : List Octets)
    (settings : List (Octets × Octets)) : Run Unit := do
  match Invocation.ofArguments name arguments with
  | .error message => refuseShell name message
  | .ok invocation =>
    match ← scriptOf invocation.body with
    | .error message => refuseShell name message
    | .ok text =>
      let world ← world
      let start := fun (process : Process) ↦
        process.start world.tree invocation settings world.nextProcess
      setStatus (← apart start (ended execute (runText execute text)))

/-- Runs the program of an order in its place, and tells what came of it. The process goes on as it
was. -/
def ordered (run : Order → Run Bool) (order : Order) : Run Outcome := do
  let outer ← self
  change ({ · with niceness := order.niceness })
  if order.isSilent then
    let channel ← openChannel .nothing
    change (·.connect 0 channel)
  if let some text := order.input then
    let channel ← openChannel (.source text)
    change (·.connect 0 channel)
  let output ← openChannel (if order.isCaught then .sink [] pipeRoom else .nothing)
  if order.isCaught then change (·.connect 1 output)
  if let some place := order.place then
    let _ ← Builtin.goTo true place
  setStatus 0
  die none
  let now := (← world).elapsed
  let limit := (order.timeLimit.map fun time ↦ now + 1000 * time).getD ((← world).limit)
  let ending? ← within limit do
    let isStarted ← run order
    return (isStarted, (← self).status)
  change fun process ↦ { outer with lastJob := process.lastJob }
  let printed := (← world).collected output
  changeWorld (·.setChannel output .nothing)
  return ⟨ending?.map (·.2), ending?.all (·.1), (← world).death, printed⟩

/-- Does what a utility does that has other programs run; `task` tells how things are. -/
def fulfil (run : Order → Run Bool) (task : Run Task) : Errand → Run Unit
  | .done status => do
    die ((← world).death.filter fun signal ↦ Signal.status signal == status)
    setStatus status
  | .die signal => do
    die (some signal)
    setStatus (Signal.status signal)
  | .finish failure effect => do
    die none
    leave (← task) failure effect
  | .write descriptor text next => do
    let _ ← write descriptor text
    fulfil run task next
  | .drain next => do
    let text ← unread 0 pipeRoom
    leaveUnread 0 text.length []
    fulfil run task next
  | .store tree next => do
    changeTree tree
    fulfil run task next
  | .run order next => do
    let outcome ← ordered run order
    fulfil run task (next outcome (← task))

/-- The pipes among the arguments of a utility that reads files. -/
def pipesAmong (utility : Utility) (arguments : List Octets) : Run (List Location) := do
  let state ← get
  if !utility.reads || !state.world.records.any (·.2.isPipe) then return []
  let locations := arguments.filterMap fun operand ↦
    (state.world.tree.locate state.process.here (pathOf operand) true).toOption
  return locations.filter state.world.isPipe

/-- Runs a file as a program, whose name and arguments are given. -/
def start (execute : Command → Run Unit) (run : Order → Run Bool) (path : Octets)
    (program : Program) (words : List Octets) (settings : List (Octets × Octets)) :
    Run Unit := do
  let name := words.headD path
  let arguments := words.drop 1
  match program with
  | .utility found =>
    if found.waits then settle execute
    for location in ← pipesAmong found arguments do
      let contents ← drained (settle execute) location
      changeWorld (·.refill location contents)
    utility found name arguments settings
    for location in ← pipesAmong found arguments do
      changeWorld (·.refill location [])
  | .shell => shell execute name arguments settings
  | .interpreted _ | .plain => shell execute name (path :: arguments) settings
  | .launcher errand =>
    let task := taskOf name arguments settings
    fulfil run task (errand (← task))

/-- What keeps a program from being started: its status and a message. -/
def startFailure (error : SystemError) : Nat × String :=
  match error with
  | .notFound | .notDirectory => (127, "not found")
  | error => (126, error.reason)

/-- Runs a program for a utility that was told to, where so many utilities may run one another;
tells whether there is such a program. -/
def launched (execute : Command → Run Unit) : (left : Nat) → Order → Run Bool
  | 0, _ => throw .timedOut
  | left + 1, order => do
    spend programTime
    let state ← get
    let name := order.words.headD []
    let directories := (order.settings.lookup "PATH".toList).getD Process.plainPath
    let refuse := fun (error : SystemError) ↦ do
      let (before, after) := order.failure
      let _ ← write 2 (Octets.ofText before ++ name ++
        (after ++ ": " ++ error.reason ++ "\n").toList)
      setStatus (startFailure error).1
      return false
    match state.programPathIn? directories name with
    | none => refuse (state.missing directories name)
    | some path =>
      match state.resolve State.interpreterLimit path order.words with
      | .error error => refuse error
      | .ok (program, words) =>
        start execute (launched execute left) path program words order.settings
        return true

/-- How many utilities may run one another. -/
def launchLimit : Nat := 50

/-- Runs a program that is called by a name; it takes the place of the shell if `replaces`. -/
def external (execute : Command → Run Unit) (replaces : Bool) (name : Octets)
    (arguments : List Octets) : Run Unit := do
  spend programTime
  die none
  let state ← get
  let refuse := fun (error : SystemError) ↦ do
    let (status, message) := startFailure error
    complain (name ++ (": " ++ message).toList)
    setStatus status
  match state.programPath? name with
  | none =>
    let error := state.missing ((state.process.value? "PATH".toList).getD []) name
    if error = .notFound then refuse error
    else
      complain (name ++ (": " ++ error.reason).toList)
      setStatus (if replaces then 126 else 127)
  | some path =>
    if !name.contains '/' then change (·.remember name path)
    match state.resolve State.interpreterLimit path (name :: arguments) with
    | .error error => refuse error
    | .ok (program, words) =>
      start execute (launched execute launchLimit) path program words
        state.process.settings

/-! ### Simple commands -/

/-- Runs a builtin under its name. Unless it is a special one, its failure is left at a status. -/
def speaking (name : Octets) (isSpecial : Bool) (body : Run Unit) : Run Unit := fun state ↦
  let before := state.process.speaker
  let back := fun (inner : State) ↦
    { inner with process := { inner.process with speaker := before } }
  match body { state with process := { state.process with speaker := name } } with
  | .ok _ inner => .ok () (back inner)
  | .error (.failed status) inner =>
    if isSpecial then .error (.failed status) (back inner)
    else
      let inner := back inner
      .ok () { inner with process := { inner.process with status } }
  | .error stop inner => .error stop (back inner)

/-- Runs the body of a function with other arguments, and with variables of its own. -/
def call (arguments : List Octets) (body : Run Unit) : Run Unit := do
  let outer ← self
  if outer.level ≥ functionLimit then
    fail ("Maximum function recursion depth (" ++ toString functionLimit ++ ") reached").toList
  let back := fun (state : State) ↦
    let inner := state.process.saved.foldl Process.restore state.process
    let process :=
      { inner with
        arguments := outer.arguments
        options := inner.savedOptions.getD inner.options
        saved := outer.saved
        savedOptions := outer.savedOptions
        level := outer.level
        loops := outer.loops
        isTested := outer.isTested
        optionIndex := outer.optionIndex
        optionOffset := outer.optionOffset }
    { state with process }
  change fun process ↦
    { process with
      arguments, saved := [], savedOptions := none, level := outer.level + 1, loops := 0
      optionIndex := 1, optionOffset := none }
  fun state ↦
    match body state with
    | .ok _ inner | .error .returned inner => .ok () (back inner)
    | .error stop inner => .error stop (back inner)

/-- Runs a script that is read in; it may return. -/
def included (body : Run Unit) : Run Unit := do
  let outer ← self
  fun state ↦
    match body state with
    | .error .returned inner =>
      .ok () { inner with process := { inner.process with isTested := outer.isTested } }
    | result => result

/-- The file that a script to be read in is in. -/
def includedPath? (state : State) (name : Octets) : Option Octets :=
  if name.contains '/' then some name
  else
    let paths := (Text.pieces (· == ':') (state.process.setting "PATH")).map fun directory ↦
      if directory.isEmpty then name else directory ++ '/' :: name
    paths.find? fun path ↦
      (state.world.tree.read state.process.here (pathOf path)).toOption.isSome

/-- Reads a script in. -/
def readIn (execute : Command → Run Unit) (name : Octets) : Run Unit := do
  let state ← get
  match includedPath? state name with
  | none => fail (name ++ ": not found".toList)
  | some path =>
    match state.world.tree.entryAt state.process.here (pathOf path) with
    | .error error => fail (openMessage "cannot open" "No such file" path error)
    | .ok (.file octets _) =>
      change fun process ↦ { process with speaker := path }
      included (runHeld execute (Octets.ofBytes octets))
    | .ok _ => setStatus 0

/-- The builtins that run no other command. -/
def builtins : List Builtin :=
  Builtin.ofAnswers ++ Builtin.ofVariables ++ Builtin.ofControl

/-- The name is that of a special builtin. -/
def isSpecial (name : Octets) : Bool :=
  Builtin.isAmong Reader.fixedNames name

/-- The numbers of the processes that operands of `wait` name. -/
def numbersOf (operands : List Octets) : Run (List Nat) :=
  operands.mapM fun operand ↦
    match operand with
    | '%' :: _ => return (← self).lastJob.getD 0
    | operand => Builtin.number operand

/-- Runs a command given by its fields; `usesFunctions` when it may be a function. -/
def called (execute : Command → Run Unit) :
    (left : Nat) → (usesFunctions : Bool) → List Octets → Run Unit
  | 0, _, _ => throw .timedOut
  | _ + 1, _, [] => pure ()
  | left + 1, usesFunctions, name :: arguments => do
    let process ← self
    let function? := if usesFunctions then process.functions.lookup name else none
    match function? with
    | some body => call arguments (execute body)
    | none =>
      let isSpecial := usesFunctions && isSpecial name
      let text := String.ofList name
      match builtins.find? (·.name == text) with
      | some builtin => speaking name isSpecial (builtin.run arguments)
      | none =>
        match text with
        | "eval" =>
          speaking name isSpecial do
            let text := (arguments.intersperse [' ']).flatten
            runHeld execute text
        | "." =>
          speaking name isSpecial do
            let (_, operands) ← Builtin.options [] arguments
            match operands with
            | [] => setStatus 0
            | file :: _ => readIn execute file
        | "wait" =>
          speaking name false do
            let numbers ← numbersOf arguments
            let numbers? := if arguments.isEmpty then none else some numbers
            setStatus (← waitFor execute numbers?)
        | "fg" | "bg" => speaking name false (fail "No current job".toList)
        | "exec" =>
          let isMarked := arguments.head? == some ['-', '-']
          let arguments := if isMarked then arguments.drop 1 else arguments
          match arguments with
          | [] => setStatus 0
          | program :: others =>
            change fun process ↦
              { process with traps := process.traps.filter (·.1 != 0), speaker := name }
            external execute true program others
            match (← world).death with
            | some signal => throw (.killed signal)
            | none => throw (.finished (← self).status)
        | "command" =>
          let outcome ← fun state ↦
            match (Builtin.options ['p', 'v', 'V'] arguments) { state with
              process := { state.process with speaker := name } } with
            | .ok result inner => .ok (some result) inner
            | .error (.failed _) inner => .ok none inner
            | .error stop inner => .error stop inner
          change fun inner ↦ { inner with speaker := process.speaker }
          match outcome with
          | none => setStatus 2
          | some (letters, operands) =>
            if letters.contains 'v' || letters.contains 'V' then
              match operands with
              | [] => setStatus 0
              | operand :: _ =>
                setStatus (← Builtin.describe (letters.contains 'V') operand)
            else
              if operands.isEmpty then setStatus 0
              called execute left false operands
        | _ =>
          setStatus (← mourned do
            external execute false name arguments
            return (← self).status)

/-- How many times a command may name another one. -/
def namingLimit : Nat := 100

/-- What stands in front of a command that is shown. -/
def traceMark (runs : List Command → Run Octets) : Run Octets := do
  let process ← self
  let text := process.setting "PS4"
  if !text.any Reader.isActive then return text
  match (Reader.hereParts (Source.bound text) []).run (Source.ofText 1 text) with
  | .error _ _ => return text
  | .ok parts _ =>
    change (Builtin.switch false 'x')
    let mark ← expandText runs parts
    change (Builtin.switch true 'x')
    return mark

/-- Shows a command that is about to run, if the script asks for that. -/
def trace (runs : List Command → Run Octets) (assignments : List (Octets × Octets))
    (fields : List Octets) : Run Unit := do
  if (← self).has 'x' then
    let words := assignments.map (fun (name, value) ↦ name ++ '=' :: value) ++ fields
    let line := (← traceMark runs) ++ (words.intersperse [' ']).flatten ++ ['\n']
    let _ ← write 2 line

/-- Sets variables one after the other; `isShared` when programs are told about them. -/
def assignments (runs : List Command → Run Octets) (isShared : Bool) :
    List (Octets × Word) → Run (List (Octets × Octets))
  | [] => return []
  | (name, word) :: rest => do
    let value ← expandText runs word
    assign name value
    if isShared then
      change fun process ↦
        match process.binding? name with
        | some binding => process.bind name { binding with isExported := true }
        | none => process
    return (name, value) :: (← assignments runs isShared rest)

/-- Runs a body, after which some variables are as they were before. -/
def restoring (names : List Octets) (body : Run Unit) : Run Unit := do
  let process ← self
  let before := names.map fun name ↦ (name, process.binding? name)
  let back := fun (state : State) ↦
    { state with process := before.foldl Process.restore state.process }
  fun state ↦
    match body state with
    | .ok _ inner => .ok () (back inner)
    | .error stop inner => .error stop (back inner)

/-- Runs the fields of a simple command after its assignments. -/
def carryOut (execute : Command → Run Unit) (assigned : List (Octets × Word))
    (fields : List Octets) : Run Unit := do
  let runs := capture execute
  match fields with
  | [] =>
    let given ← assignments runs false assigned
    trace runs given []
    setStatus ((← self).outputStatus.getD 0)
  | name :: _ =>
    let isFunction := ((← self).functions.lookup name).isSome
    if assigned.isEmpty then
      trace runs [] fields
      called execute namingLimit true fields
    else if isSpecial name && !isFunction then
      let given ← assignments runs false assigned
      trace runs given fields
      called execute namingLimit true fields
    else
      restoring (assigned.map (·.1)) do
        let given ← assignments runs true assigned
        trace runs given fields
        called execute namingLimit true fields

/-- Runs a simple command. -/
def simple (execute : Command → Run Unit) (line : Nat) (assigned : List (Octets × Word))
    (words : List Word) (redirections : List Redirection) : Run Unit := do
  spend commandTime
  change fun process ↦ { process with line, outputStatus := none }
  let runs := capture execute
  let fields ← expandFields runs words
  if redirections.isEmpty then carryOut execute assigned fields
  else
    let special := fields.head?.any isSpecial
    if fields.head? = some "exec".toList then
      let before := (← self).descriptors
      if ← redirectAll runs (settle execute) redirections then carryOut execute assigned fields
      else
        change (reconnected before redirections)
        throw (.failed 2)
    else
      let isDone ← fun state ↦
        let body := do
          carryOut execute assigned fields
          change fun process ↦ { process with outputStatus := some 0 }
        match (do
          change fun process ↦ { process with outputStatus := none }
          withRedirections runs (settle execute) redirections body : Run Unit) state with
        | .ok _ inner => .ok (inner.process.outputStatus.isSome) inner
        | .error stop inner => .error stop inner
      if special && !isDone then throw (.failed 2)

/-! ### Compound commands -/

/-- Runs a body inside a loop. -/
def inLoop (body : Run Unit) : Run Unit := do
  let outer ← self
  change fun process ↦ { process with loops := outer.loops + 1 }
  body
  change fun process ↦ { process with loops := outer.loops, isTested := outer.isTested }

/-- Runs commands as long as a condition holds, or until it does, in so many rounds; gives the
status of the last round. -/
def loop (execute : Command → Run Unit) (isUntil : Bool) (condition body : List Command) :
    (left : Nat) → (last : Nat) → Run Nat
  | 0, _ => throw .timedOut
  | left + 1, last => do
    let outcome ← once do
      let status ← tested (condition.forM execute)
      if (status == 0) == isUntil then return false
      body.forM execute
      return true
    match outcome with
    | some true => loop execute isUntil condition body left (← self).status
    | some false => return last
    | none => return (← self).status

/-- Runs commands for each value of a variable. -/
def each (execute : Command → Run Unit) (line : Nat) (name : Octets) (words : List Word)
    (body : List Command) : Run Unit := do
  change fun process ↦ { process with line, outputStatus := none }
  let values ← expandFields (capture execute) words
  if values.isEmpty then setStatus 0
  inLoop <| Run.forEach (fun value ↦ do
    spend commandTime
    assign name value
    let outcome ← once do
      body.forM execute
      return true
    return outcome.isSome) values

/-- One of the words stands for the subject. -/
def anyMatch (runs : List Command → Run Octets) (subject : Octets) : List Word → Run Bool
  | [] => return false
  | word :: rest => do
    let pattern ← expandPattern runs word
    if Pattern.matchesText pattern subject then return true
    anyMatch runs subject rest

/-- Runs the first arm with a pattern that stands for the subject. -/
def select (execute : Command → Run Unit) (subject : Octets) :
    List (List Word × List Command) → Run Unit
  | [] => setStatus 0
  | (patterns, body) :: rest => do
    if ← anyMatch (capture execute) subject patterns then
      if body.isEmpty then setStatus 0 else body.forM execute
    else select execute subject rest

/-- Acts on the signals that were sent to the process. -/
def heed (execute : Command → Run Unit) : Run Unit := do
  let state ← get
  let number := state.process.number
  for (target, signal) in state.world.signals do
    if target = number then
      changeWorld fun world ↦ { world with signals := world.signals.erase (target, signal) }
      match (← self).traps.lookup signal, Signal.isCatchable signal with
      | some action, true =>
        let status := (← self).status
        runText execute action
        setStatus status
      | _, _ =>
        match Signal.effect signal with
        | .kills => throw (.killed signal)
        | .stops => throw .timedOut
        | .nothing => pure ()

/-- Runs a command, at most so deep. -/
def command : Nat → Command → Run Unit
  | 0, _ => throw .timedOut
  | depth + 1, given => do
    let execute := command depth
    if (← self).has 'n' then return
    match given with
    | .simple line assigned words redirections =>
      simple execute line assigned words redirections
      checkStrict
    | .redirected line body redirections =>
      change fun process ↦ { process with line }
      withRedirections (capture execute) (settle execute) redirections (execute body)
      checkStrict
    | .group body => body.forM execute
    | .subshell body =>
      spend processTime
      setStatus (← mourned (apart id (ended execute (body.forM execute))))
      checkStrict
    | .background body =>
      spend processTime
      let state ← get
      let number := state.world.nextProcess
      let (channel, world) := state.world.openChannel .nothing
      let process := { (state.process.subshell number).connect 0 channel with isTested := false }
      let job : Job := ⟨process, body, world.elapsed⟩
      changeWorld fun _ ↦ { world with nextProcess := number + 1, jobs := world.jobs ++ [job] }
      change fun process ↦ { process with lastJob := some number, status := 0 }
    | .both first second =>
      if (← tested (execute first)) == 0 then execute second
    | .either first second =>
      if (← tested (execute first)) != 0 then execute second
    | .negated inner =>
      let status ← tested (execute inner)
      setStatus (if status == 0 then 1 else 0)
    | .pipeline several =>
      setStatus (← stages execute none several)
      checkStrict
    | .choose condition yes no =>
      if (← tested (condition.forM execute)) == 0 then yes.forM execute
      else if no.isEmpty then setStatus 0
      else no.forM execute
    | .loop isUntil condition body =>
      let limit := (← world).limit
      inLoop do
        setStatus (← loop execute isUntil condition body limit 0)
    | .each line name words body => each execute line name words body
    | .select line subject arms =>
      change fun process ↦ { process with line }
      let subject ← expandText (capture execute) subject
      select execute subject arms
    | .define name body =>
      change fun process ↦
        let others := process.functions.filter (·.1 != name)
        { process with functions := (name, body) :: others, status := 0 }
    if !(← world).signals.isEmpty then heed execute

end Scaffold.Shell.Run
