import Scaffold.Shell.Awk.Run

/-!
# Running programs for records

`awk` reads a program, sets the names that its options tell about, and runs it. A run that has a
command run stops there, and is started anew with what came of that.
-/

set_option autoImplicit false

namespace Scaffold.Shell.Utility

open Text (Octets)

/-- What `awk` says about how it is called. -/
def recordUsage : List String :=
  ["Usage: mawk [Options] [Program] [file ...]", "", "Program:",
    "    The -f option value is the name of a file containing program text.",
    "    If no -f option is given, a \"--\" ends option processing; the following",
    "    parameters are the program text.", "", "Options:",
    "    -f program-file  Program  text is read from file instead of from the",
    "                     command-line.  Multiple -f options are accepted.",
    "    -F value         sets the field separator, FS, to value.",
    "    -v var=value     assigns value to program variable var.",
    "    --               unambiguous end of options.", "",
    "    Implementation-specific options are prefixed with \"-W\".  They can be",
    "    abbreviated:", "",
    "    -W version       show version information and exit.",
    "    -W compat        pre-POSIX 2001.",
    "    -W dump          show assembler-like listing of program and exit.",
    "    -W help          show this message and exit.",
    "    -W interactive   set unbuffered output, line-buffered input.",
    "    -W exec file     use file as program as well as last option.",
    "    -W posix         stricter POSIX checking.",
    "    -W random=number set initial random seed.",
    "    -W sprintf=number adjust size of sprintf buffer.",
    "    -W usage         show this message and exit."]

/-- Why `awk` ends before there is a program: it was asked about itself, or the arguments are
wrong. -/
inductive RecordEnd
  | told (text : Octets)
  | wrong (message : Octets)

/-- The options of `awk` with their values, and the operands; a long option has the letter `-`. -/
def recordOptions : List Octets → Except Octets (List (Char × Octets) × List Octets)
  | [] => .ok ([], [])
  | word :: rest =>
    match word with
    | ['-', '-'] => .ok ([], rest)
    | '-' :: '-' :: _ => do
      let (others, operands) ← recordOptions rest
      return (('-', word) :: others, operands)
    | '-' :: letter :: value =>
      if !(['f', 'F', 'v', 'W'].contains letter) then
        .error ("not an option: -".toList ++ [letter])
      else
        match value, rest with
        | [], [] => .error ("option -".toList ++ [letter] ++ " lacks argument".toList)
        | [], value :: rest => do
          let (others, operands) ← recordOptions rest
          return ((letter, value) :: others, operands)
        | value, rest => do
          let (others, operands) ← recordOptions rest
          return ((letter, value) :: others, operands)
    | word => .ok ([], word :: rest)

/-- The words that name a way to run. -/
def recordModes : List String :=
  ["version", "compat", "dump", "help", "interactive", "exec", "posix", "random", "sprintf",
    "usage", "lint", "traditional", "re-interval"]

/-- What comes of a word for a way to run: a warning, if anything. -/
def recordMode (isLong : Bool) (word : Octets) : Except RecordEnd (List Octets) :=
  let name := (if isLong then word.drop 2 else word).takeWhile (· != '=')
  match recordModes.find? fun mode ↦ !name.isEmpty && name.isPrefixOf mode.toList with
  | some "version" => .error (.told "mawk 1.3.4 20200120\n".toList)
  | some "help" | some "usage" =>
    .error (.told (recordUsage.flatMap fun line ↦ line.toList ++ ['\n']))
  | some _ => .ok []
  | none =>
    if isLong then .error (.wrong ("not an option: ".toList ++ word))
    else .ok ["vacuous option: -W \"".toList ++ word ++ ['\x22']]

/-- What comes of options: the warnings, or why they end the run. -/
def recordWarnings : List (Char × Octets) → Except RecordEnd (List Octets)
  | [] => .ok []
  | (letter, value) :: rest =>
    if letter = 'W' ∨ letter = '-' then do
      let warnings ← recordMode (letter == '-') value
      return warnings ++ (← recordWarnings rest)
    else if letter = 'v' ∧ (Awk.Act.assignment? value).isNone then
      .error (.wrong ("improper assignment: -v ".toList ++ value))
    else recordWarnings rest

/-- The text of the program in files. -/
def recordProgram (task : Task) : List Octets → Except Octets Octets
  | [] => .ok []
  | file :: rest =>
    match task.contents file with
    | .error .isDirectory => .error "read error (Is a directory)".toList
    | .error error =>
      .error ("cannot open \"".toList ++ file ++ ("\" (" ++ error.reason ++ ")").toList)
    | .ok text => do
      let others ← recordProgram task rest
      return text ++ (if text.getLast? = some '\n' then [] else ['\n']) ++ others

/-- Sets the names that are known from the start, and those that options tell about. -/
def recordStart (task : Task) (options : List (Char × Octets)) (operands : List Octets) :
    Awk.Act Unit := do
  let arguments := task.name.toList :: operands
  let table := arguments.zipIdx.foldl (fun (table : Awk.Table) (argument, index) ↦
    let subscript := Awk.Subscript.whole index
    (table.touched true subscript).set subscript (.read argument)) .empty
  let settings := task.settings.foldl (fun (table : Awk.Table) (name, value) ↦
    let subscript := Awk.Subscript.text name
    (table.touched true subscript).set subscript (.read value)) .empty
  modify fun machine ↦
    { machine with arrays := (machine.arrays.insert "ARGV" table).insert "ENVIRON" settings }
  Awk.Act.setGlobal "ARGC" (.ofNat arguments.length)
  for (letter, value) in options do
    if letter = 'F' then Awk.Act.assign "FS" value
    else if letter = 'v' then
      if let some (name, value) := Awk.Act.assignment? value then Awk.Act.assign name value

/-- What the input has left after octets were read in large parts. -/
def afterParts (size : Nat) (input rest : Octets) : Octets :=
  let taken := input.length - rest.length
  input.drop ((taken + size - 1) / size * size)

/-- The progress of a run with the answers to its orders so far. -/
def recordProgress (task : Task) (program : Awk.Program) (start : Awk.Act Unit)
    (answers : List Answer) : Progress :=
  let finish := fun (machine : Awk.Machine) (status duration : Nat) ↦
    let rest := if !machine.hasReadInput then machine.input
      else if machine.readsInput then afterParts 262144 task.input (machine.supply.getD []) else []
    Progress.finished { task.finishAll status machine.written.reverse false with
      input := rest
      tree := if machine.hasChanged then some machine.tree else none
      duration }
  let complained := fun (machine : Awk.Machine) (text : Octets) ↦
    { machine with written := (2, task.message text) :: machine.written }
  let place := fun (machine : Awk.Machine) ↦
    "\n\tFILENAME=\"".toList ++ machine.textOf "FILENAME" ++ "\" FNR=".toList ++
      machine.textOf "FNR" ++ " NR=".toList ++ machine.textOf "NR"
  let ordered := fun (machine : Awk.Machine) (order : Order) ↦
    let tree? := if machine.hasChanged then some machine.tree else none
    Progress.ordered machine.written.reverse tree? machine.hasReadInput order
  let stopped := fun (stop : Awk.Stop) (machine : Awk.Machine) ↦
    match stop with
    | .ordered order => ordered machine order
    | .endless =>
      match Awk.Act.flushPrinted machine with
      | .ok _ machine | .error _ machine => finish machine 2 Effect.forever
    | _ => finish machine 2 0
  -- What was printed comes out even after something went wrong.
  let failed := fun (machine : Awk.Machine) (text : Octets) ↦
    match Awk.Act.closeAll (complained machine text) with
    | .ok () machine => finish machine 2 0
    | .error (.refused text) machine => finish (complained machine text) 2 0
    | .error stop machine => stopped stop machine
  match start (Awk.Machine.start task answers) with
  | .error (.fault text) machine => failed machine ("line 0: ".toList ++ text)
  | .error stop machine => stopped stop machine
  | .ok () machine =>
    match Awk.Act.run program machine with
    | .ok () machine => finish machine machine.status 0
    | .error (.fault text) machine =>
      failed machine ("run time error: ".toList ++ text ++ place machine)
    | .error (.refused text) machine => failed machine text
    | .error stop machine => stopped stop machine

/-- Runs a program for records. -/
def awk (task : Task) : Errand :=
  let failed := fun (text : Octets) ↦ Errand.write 2 (task.message text) (.done 2)
  match recordOptions task.arguments with
  | .error message => failed message
  | .ok (options, operands) =>
    match recordWarnings options with
    | .error (.told text) => .write 1 text (.done 0)
    | .error (.wrong message) => failed message
    | .ok warnings =>
      let warn := fun (next : Errand) ↦
        .writeAll (warnings.map fun warning ↦ (2, task.message warning)) next
      let files := (options.filter (·.1 == 'f')).map (·.2)
      let program? : Except Octets (Option (Octets × List Octets)) :=
        match files, operands with
        | [], [] => .ok none
        | [], text :: operands => .ok (some (text ++ ['\n'], operands))
        | files, operands => (recordProgram task files).map fun text ↦ some (text, operands)
      warn <| match program? with
        | .error message => failed message
        | .ok none =>
          if task.arguments.isEmpty then
            .write 2 (recordUsage.flatMap fun line ↦ line.toList ++ ['\n']) (.done 0)
          else .done 0
        | .ok (some (text, operands)) =>
          match Awk.Program.read text with
          | .error message => failed message
          | .ok program =>
            if program.rules.isEmpty then .done 0
            else
              .retold 2 (recordProgress task program (recordStart task options operands))
                Errand.orderLimit []

end Scaffold.Shell.Utility
