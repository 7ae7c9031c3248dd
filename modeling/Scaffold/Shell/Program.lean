import Scaffold.Shell.State
import Scaffold.Shell.Utility

/-!
# Programs

What it takes to start a program: where it is found (`programPath?`), and what its file is
(`Program.of`): a program of the system, which is known by its name, or a script, which may name its
interpreter in its first line.
-/

set_option autoImplicit false

namespace Scaffold.Shell

open Text (Octets)

/-- The first line of a script that names its interpreter, and what is given to it. -/
structure Interpreter where
  path : Octets
  argument : Option Octets
  deriving DecidableEq, Repr

namespace Interpreter

/-- The octets of a file that are looked at for its interpreter. -/
def lookedAt : Nat := 256

/-- Blanks of the line that names an interpreter. -/
def isBlank (c : Char) : Bool :=
  c == ' ' || c == '\t'

/-- The interpreter that a line names after `#!`; none if the line names none. A line without an end
among the octets that are looked at counts only if the name of the interpreter ends there. -/
def ofLine? (octets : Octets) : Option Interpreter :=
  let seen := octets.take (lookedAt - 2)
  let line := seen.takeWhile (· != '\n')
  let isWhole := line.length < seen.length || octets.length < lookedAt - 2
  let start := line.dropWhile isBlank
  let path := start.takeWhile fun c ↦ !isBlank c && c != '\x00'
  let after := start.drop path.length
  if path.isEmpty || (!isWhole && after.isEmpty) then none
  else
    let rest := after.takeWhile (· != '\x00')
    let argument := ((rest.dropWhile isBlank).reverse.dropWhile isBlank).reverse
    some ⟨path, if argument.isEmpty then none else some argument⟩

end Interpreter

/-- What a file that may be run is. -/
inductive Program
  | utility (utility : Utility)
  /-- The shell itself. -/
  | shell
  /-- A utility that runs another program. -/
  | launcher (errand : Task → Errand)
  /-- A script that its interpreter runs. -/
  | interpreted (interpreter : Interpreter)
  /-- A file that nothing but a shell can run. -/
  | plain

/-- The program that lies at a location with these contents. -/
def Program.of (location : Location) (octets : List UInt8) : Program :=
  let ofSystem : Option Program :=
    match location with
    | ["usr", "bin", name] =>
      if octets != [0x7F] then none
      else if name = "sh" ∨ name = "dash" then some .shell
      else
        (Utility.launcher? name).map .launcher <|> (Utility.ofName? name).map .utility
    | _ => none
  match ofSystem with
  | some program => program
  | none =>
    match octets with
    | 0x23 :: 0x21 :: rest =>
      match Interpreter.ofLine? (Octets.ofBytes (rest.take Interpreter.lookedAt)) with
      | some interpreter => .interpreted interpreter
      | none => .plain
    | _ => .plain

namespace State

/-- The file at a path may be run. -/
def isProgram (state : State) (path : Octets) : Bool :=
  match state.world.tree.entryAt state.process.here (pathOf path) with
  | .ok (.file _ isExecutable) => isExecutable
  | _ => false

/-- The paths that a name may stand for in directories that are written with colons between them. -/
def pathsIn (directories name : Octets) : List Octets :=
  (Text.pieces (· == ':') directories).map fun directory ↦
    if directory.isEmpty then name else directory ++ '/' :: name

/-- The path of a program that is called by a name, where programs are looked for in directories
that are written with colons between them. -/
def programPathIn? (state : State) (directories name : Octets) : Option Octets :=
  if name.contains '/' then some name
  else if name.isEmpty then none
  else (pathsIn directories name).find? state.isProgram

/-- Something that is no program lies where a program is looked for. -/
def isBlocked (state : State) (directories name : Octets) : Bool :=
  (pathsIn directories name).any fun path ↦
    state.world.tree.pathExists state.process.here (pathOf path)

/-- Why a program is not found in directories by a name without a slash. -/
def missing (state : State) (directories name : Octets) : SystemError :=
  if name.length > FileTree.nameLimit then .nameTooLong
  else if !name.isEmpty && state.isBlocked directories name then .denied
  else .notFound

/-- The path of a program that is called by a name. -/
def programPath? (state : State) (name : Octets) : Option Octets :=
  match state.process.value? "PATH".toList with
  | some directories => state.programPathIn? directories name
  | none => if name.contains '/' then some name else none

/-- The program that starting a file comes to, with its name and arguments, where so many files may
be one the interpreter of the other. -/
def resolve (state : State) :
    (left : Nat) → (path : Octets) → List Octets → Except SystemError (Program × List Octets)
  | 0, _, _ => .error .tooManyLinks
  | left + 1, path, words =>
    match state.world.tree.locate state.process.here (pathOf path) true with
    | .error error => .error error
    | .ok location =>
      match state.world.tree.find? location with
      | some (.file octets true) =>
        match Program.of location octets with
        | .interpreted interpreter =>
          state.resolve left interpreter.path
            (interpreter.path :: interpreter.argument.toList ++ path :: words.drop 1)
        | program => .ok (program, words)
      | some _ => .error .denied
      | none => .error .notFound

/-- How many files may be one the interpreter of the other, with a program at the end. -/
def interpreterLimit : Nat := 6

end State

end Scaffold.Shell
