import Scaffold.Shell.Awk.Machine

/-!
# Reading and writing in programs for records

Records come from the operands, one after the other, and lines from files and commands. What is
printed is kept until a command is started for it or its output, or the program ends; commands that
are written to run when they are closed, at the latest at the end.
-/

set_option autoImplicit false

namespace Scaffold.Shell.Awk

open Text (Octets)

namespace Act

/-! ### Orders -/

/-- Has a program run, and waits for what comes of it. -/
def order (order : Order) : Act Answer := do
  let machine ← get
  match machine.answers with
  | [] => throw (.ordered order)
  | answer :: answers =>
    set { machine with
      answers
      written := []
      tree := answer.tree
      hasChanged := false
      input := if machine.hasReadInput then machine.input else answer.input }
    return answer

/-- The number that a status stands for; a signal that ended a program counts from 256 on. -/
def statusOf (outcome : Outcome) : Nat :=
  let status := outcome.status.getD 0
  if 128 < status ∧ status < 160 then status + 128 else status

/-- Lets out what was printed. -/
def flushPrinted : Act Unit :=
  modify fun machine ↦
    if machine.printed.isEmpty then machine
    else
      { machine with
        printed := [], written := (1, machine.printed.reverse.flatten) :: machine.written }

/-! ### Writing -/

/-- Writes to a file what was kept for it. -/
def flushFile (outlet : Outlet) : Act Unit := do
  if outlet.parts.isEmpty then return
  let machine ← get
  let added := outlet.parts.reverse.flatten
  let held := match machine.tree.read machine.task.here (pathOf outlet.name) with
    | .ok octets => Octets.ofBytes octets
    | .error _ => []
  match machine.task.store machine.tree outlet.name (held ++ added) with
  | .ok tree => set { machine with tree, hasChanged := true }
  | .error error =>
    throw (.refused ("close failed on file \"".toList ++ outlet.name ++
      ("\" (" ++ error.reason ++ ")").toList))

/-- Writes to all files what was kept for them. -/
def flushFiles : Act Unit := do
  for outlet in (← get).outlets do
    if outlet.kind != .command then flushFile outlet
  modify fun machine ↦
    { machine with
      outlets := machine.outlets.map fun outlet ↦
        if outlet.kind == .command then outlet else { outlet with parts := [] } }

/-- Begins to write to a file or command. -/
def openOutlet (kind : OutputKind) (name : Octets) : Act Unit := do
  let outlet : Outlet := ⟨kind, name, []⟩
  match kind with
  | .command => flushPrinted
  | kind =>
    let machine ← get
    let held := match machine.tree.read machine.task.here (pathOf name) with
      | .ok octets => Octets.ofBytes octets
      | .error _ => []
    let start := if kind == .appended then held else []
    let isDevice := name = "/dev/full".toList || name = "/dev/null".toList
    if !isDevice then
      match machine.task.store machine.tree name start with
      | .ok tree => set { machine with tree, hasChanged := true }
      | .error error =>
        throw (.refused ("cannot open \"".toList ++ name ++
          ("\" for output (" ++ error.reason ++ ")").toList))
  modify fun machine ↦ { machine with outlets := outlet :: machine.outlets }

/-- Writes a text to where output goes. -/
def emit (output : Option (OutputKind × Octets)) (text : Octets) : Act Unit := do
  spend (2 * text.length)
  match output with
  | none => modify fun machine ↦ { machine with printed := text :: machine.printed }
  | some (kind, name) =>
    let isAny := fun (names : List String) ↦ kind != .command && names.contains (String.ofList name)
    if isAny ["/dev/stdout", "/dev/fd/1"] then
      modify fun machine ↦ { machine with printed := text :: machine.printed }
    else if isAny ["/dev/stderr", "/dev/fd/2"] then
      modify fun machine ↦ { machine with written := (2, text) :: machine.written }
    else
      let isSame := fun (outlet : Outlet) ↦
        outlet.name == name && (outlet.kind == .command) == (kind == .command)
      if !(← get).outlets.any isSame then openOutlet kind name
      modify fun machine ↦
        let (same, others) := machine.outlets.partition isSame
        { machine with
          outlets := same.map (fun outlet ↦ { outlet with parts := text :: outlet.parts }) ++
            others }

/-- The order of a command that is connected to the program. -/
def commandOrder (command : Octets) : Act Order := do
  return (← get).task.order "" ["/bin/sh".toList, "-c".toList, command]

/-- Ends the writing to a file or command, with the status of a command. -/
def closeOutlet (outlet : Outlet) : Act Nat := do
  match outlet.kind with
  | .command =>
    let order ← do
      let order ← commandOrder outlet.name
      pure { order with input := some outlet.parts.reverse.flatten }
    return statusOf (← Act.order order).outcome
  | _ =>
    flushFile outlet
    return 0

/-- Ends the writing to all files and commands, and lets out what was printed. -/
def closeAll : Act Unit := do
  for outlet in (← get).outlets do
    modify fun machine ↦ { machine with outlets := machine.outlets.drop 1 }
    let _ ← closeOutlet outlet
  flushPrinted

/-- Ends the reading of what has a name, and the writing to it. -/
def close (name : Octets) : Act Value := do
  let machine ← get
  let (outlets, others) := machine.outlets.partition fun outlet ↦ outlet.name == name
  let (inlets, rest) := machine.inlets.partition fun inlet ↦ inlet.name == name
  set { machine with outlets := others, inlets := rest }
  let mut status : Option Nat := none
  for outlet in outlets do status := some (← closeOutlet outlet)
  for inlet in inlets do status := some (inlet.status.getD 0)
  return match status with
    | some status => .ofNat status
    | none => .number (-1.0)

/-- Lets out all that was kept, and runs a command. -/
def system (command : Octets) : Act Value := do
  flushPrinted
  flushFiles
  let answer ← order ((← get).task.shellOrder command)
  return .ofNat (statusOf answer.outcome)

/-! ### Reading -/

/-- The first match that is not empty from a place on. -/
def firstMatch (sought : Sought) : (left : Nat) → Place → Option Match
  | 0, _ => none
  | left + 1, place =>
    match sought.matchFrom place with
    | none => none
    | some found =>
      if found.start.index = found.finish.index then
        found.finish.next?.bind (firstMatch sought left)
      else some found

/-- The first record of a text, and what follows it; none if there is none. -/
def firstRecord? (mark : RecordMark) (text : Octets) : Option (Octets × Octets) :=
  match mark with
  | .octet c =>
    if text.isEmpty then none
    else
      let record := text.takeWhile (· != c)
      some (record, text.drop (record.length + 1))
  | .emptyLines =>
    let text := text.dropWhile (· == '\n')
    if text.isEmpty then none
    else
      let rec go : List Octets → Octets → List Octets × Octets
        | done, '\n' :: '\n' :: rest => (done, rest.dropWhile (· == '\n'))
        | done, ['\n'] => (done, [])
        | done, c :: rest => go ([c] :: done) rest
        | done, [] => (done, [])
      let (done, rest) := go [] text
      some (done.reverse.flatten, rest)
  | .pattern sought =>
    if text.isEmpty then none
    else
      let place := Place.start text
      match firstMatch sought (text.length + 1) place with
      | some found => some (place.upTo found.start, found.finish.rest)
      | none => some (text, [])

/-- Takes the input as far as it was not read. -/
def takeInput : Act Octets := do
  let machine ← get
  set { machine with input := [], hasReadInput := true }
  return machine.input

/-- The name and the value of an operand that sets a name. -/
def assignment? (operand : Octets) : Option (String × Octets) :=
  let name := operand.takeWhile Scanner.isNameOctet
  let rest := operand.drop name.length
  if name.isEmpty || name.head?.any Char.isDigit then none
  else
    match rest with
    | '=' :: value => some (String.ofList name, value)
    | _ => none

/-- Sets a name as an operand or an option tells. -/
def assign (name : String) (value : Octets) : Act Unit :=
  setGlobal name (.read (Scanner.unescaped value))

/-- Begins to read what has a name as operand. -/
def openSupply (name : Octets) : Act Unit := do
  if Task.isInput name then
    let rest ← takeInput
    modify fun machine ↦ { machine with supply := some rest, readsInput := true }
  else
    let task := { (← get).task with tree := (← get).tree }
    match task.contents name with
    | .ok rest => modify fun machine ↦ { machine with supply := some rest, readsInput := false }
    | .error .isDirectory => throw (.refused "read error (Is a directory)".toList)
    | .error error =>
      throw (.refused ("cannot open \"".toList ++ name ++ ("\" (" ++ error.reason ++ ")").toList))
  modify fun machine ↦
    let globals := machine.globals.insert "FILENAME" (.read name)
    { machine with hasFiles := true, globals := globals.insert "FNR" (.number 0.0) }

/-- Begins to read the next operand, or the input if none was a file, and tells whether there is
one; `left` bounds the operands. -/
def openNext : (left : Nat) → Act Bool
  | 0 => return false
  | left + 1 => do
    let machine ← get
    let count := (machine.globals.getD "ARGC" .unset).toNumber.toUInt64.toNat
    if machine.operand ≥ count then
      if machine.hasFiles then return false
      else
        openSupply ['-']
        return true
    else
      let subscript := Subscript.whole machine.operand
      let arguments := machine.arrays.getD "ARGV" .empty
      set { machine with operand := machine.operand + 1 }
      let operand ← text (arguments.get subscript)
      if operand.isEmpty then openNext left
      else
        match assignment? operand with
        | some (name, value) =>
          assign name value
          openNext left
        | none =>
          openSupply operand
          return true

/-- The next record; `left` bounds the operands. -/
def nextRecord? : (left : Nat) → Act (Option Octets)
  | 0 => return none
  | left + 1 => do
    let machine ← get
    match machine.supply with
    | some rest =>
      match firstRecord? machine.mark rest with
      | some (record, rest) =>
        set { machine with supply := some rest }
        return some record
      | none =>
        set { machine with supply := none }
        nextRecord? left
    | none =>
      if ← openNext 100000 then nextRecord? left else return none

/-- Counts one more record. -/
def countRecord : Act Unit :=
  modify fun machine ↦
    let next := fun (name : String) ↦
      Value.number ((machine.globals.getD name .unset).toNumber + 1.0)
    { machine with
      globals := (machine.globals.insert "NR" (next "NR")).insert "FNR" (next "FNR") }

/-- The next line of a file or command, if there is one. -/
def lineOf (inlet : Inlet) : Act (Option Octets) := do
  match firstRecord? (← get).mark inlet.rest with
  | some (line, rest) =>
    modify fun machine ↦
      { machine with
        inlets := machine.inlets.map fun other ↦
          if other.name == inlet.name && other.status.isSome == inlet.status.isSome then
            { other with rest } else other }
    return some line
  | none => return none

/-- The file that is read under a name; none if it cannot be. -/
def fileInlet? (name : Octets) : Act (Option Inlet) := do
  let machine ← get
  match machine.inlets.find? fun inlet ↦ inlet.name == name && inlet.status.isNone with
  | some inlet => return some inlet
  | none =>
    let contents? ←
      if Task.isInput name then do pure (some (← takeInput))
      else
        let task := { machine.task with tree := machine.tree }
        pure (task.contents name).toOption
    match contents? with
    | none => return none
    | some rest =>
      let inlet : Inlet := ⟨name, rest, none⟩
      modify fun machine ↦ { machine with inlets := inlet :: machine.inlets }
      return some inlet

/-- The command whose output is read; it is run if that was not read yet. -/
def commandInlet (name : Octets) : Act Inlet := do
  match (← get).inlets.find? fun inlet ↦ inlet.name == name && inlet.status.isSome with
  | some inlet => return inlet
  | none =>
    flushPrinted
    let answer ← do
      let order ← commandOrder name
      Act.order { order with isCaught := true }
    let inlet : Inlet := ⟨name, answer.outcome.printed, some (statusOf answer.outcome)⟩
    modify fun machine ↦ { machine with inlets := inlet :: machine.inlets }
    return inlet

end Act

end Scaffold.Shell.Awk
