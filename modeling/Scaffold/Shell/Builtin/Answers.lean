import Scaffold.Shell.Builtin.Basic
import Scaffold.Shell.Condition
import Scaffold.Shell.Printing
import Scaffold.Shell.Source
import Scaffold.Shell.Program

/-!
# Printing, conditions and names

The builtins that print texts, those that answer with a status, and those that say what a name
stands for.
-/

set_option autoImplicit false

namespace Scaffold.Shell.Builtin

open Text (Octets)
open Run

/-- Decides a condition. -/
def decide (words : List Octets) : Run Unit := do
  let state ← get
  let files := Condition.Files.of state.world.tree state.world.records state.process.here
  match Condition.holds files words with
  | .ok holds => setStatus (if holds then 0 else 1)
  | .error message => fail message

/-- Decides a condition, which a bracket may have to end. -/
def test (name : String) : Builtin :=
  plain name fun words ↦
    if name = "[" then
      if words.getLast?.any fun word ↦ word.head? == some ']' then decide words.dropLast
      else fail "missing ]".toList
    else decide words

/-- Prints its arguments. -/
def echo : Builtin :=
  plain "echo" fun words ↦ print (Printing.echo words)

/-- Prints its arguments in a form. -/
def printf : Builtin :=
  plain "printf" fun words ↦ do
    let filled := Printing.printf words
    for (_, complaint) in filled.complaints do
      complain complaint
    print filled.output
    if (← self).status = 0 then setStatus filled.status

/-- Ends with a status. -/
def constant (name : String) (status : Nat) : Builtin :=
  plain name fun _ ↦ setStatus status

/-- What a name stands for at the place of a command. -/
inductive Meaning
  | keyword
  | alias (text : Octets)
  | function
  | builtin (isSpecial : Bool)
  | program (path : Octets)
  | nothing
  deriving DecidableEq, Repr

/-- The other builtins. -/
def plainNames : List String :=
  ["[", "alias", "bg", "cd", "command", "echo", "false", "fg", "getopts", "hash", "jobs", "kill",
    "printf", "pwd", "read", "test", "true", "type", "ulimit", "umask", "unalias", "wait"]

/-- The name is one of these. -/
def isAmong (names : List String) (name : Octets) : Bool :=
  names.contains (String.ofList name)

/-- What a name stands for in a state. -/
def meaning (state : State) (name : Octets) : Meaning :=
  match state.process.aliases.lookup name with
  | some text => .alias text
  | none =>
    if isAmong Reader.keywords name then .keyword
    else if state.process.functions.any (·.1 == name) then .function
    else if isAmong Reader.fixedNames name then .builtin true
    else if isAmong plainNames name then .builtin false
    else
      match state.programPath? name with
      | some path => if state.isProgram path then .program path else .nothing
      | none => .nothing

/-- Says what a name stands for, in words or as a command would have it. -/
def describe (inWords : Bool) (name : Octets) : Run Nat := do
  let meaning := meaning (← get) name
  let isKnown := ((← self).hashed.lookup name).isSome
  if let .program path := meaning then
    if path != name then change (·.remember name path)
  let text :=
    match meaning, inWords with
    | .keyword, true => some (name ++ " is a shell keyword".toList)
    | .alias text, true => some (name ++ " is an alias for ".toList ++ text)
    | .function, true => some (name ++ " is a shell function".toList)
    | .builtin true, true => some (name ++ " is a special shell builtin".toList)
    | .builtin false, true => some (name ++ " is a shell builtin".toList)
    | .program path, true =>
      some (name ++ (if isKnown then " is a tracked alias for " else " is ").toList ++ path)
    | .nothing, true => some (name ++ ": not found".toList)
    | .alias text, false => some ("alias ".toList ++ name ++ '=' :: quoted text)
    | .program path, false => some path
    | .nothing, false => none
    | _, false => some name
  if let some line := text then print (line ++ ['\n'])
  return if meaning = .nothing then 127 else 0

/-- Says what names stand for. -/
def type : Builtin :=
  plain "type" fun names ↦ do
    let statuses ← names.mapM (describe true)
    setStatus (if statuses.contains 127 then 127 else 0)

/-- The place of a name among those that are kept. -/
def shelf (name : Octets) : Nat :=
  (name.foldl (fun sum c ↦ sum + c.toNat) ((name.headD '\x00').toNat * 16)) % 32768 % 31

/-- Looks programs up, or lists those that were. -/
def hash : Builtin :=
  plain "hash" fun arguments ↦ do
    let (letters, names) ← options ['r', 'v'] arguments
    if letters.contains 'r' then
      change fun process ↦ { process with hashed := [] }
      setStatus 0
    else if names.isEmpty then
      let sorted := (← self).hashed.reverse.mergeSort fun first second ↦
        shelf first.1 ≤ shelf second.1
      print (sorted.flatMap fun entry ↦ entry.2 ++ ['\n'])
    else
      let found ← names.mapM fun name ↦ do
        match meaning (← get) name with
        | .nothing =>
          complain (name ++ ": not found".toList)
          return false
        | .program path =>
          if path != name then change (·.remember name path)
          return true
        | _ => return true
      setStatus (if found.all id then 0 else 1)

/-- Lists or sets aliases. -/
def «alias» : Builtin :=
  plain "alias" fun words ↦ do
    let line := fun (entry : Octets × Octets) ↦ entry.1 ++ '=' :: quoted entry.2 ++ ['\n']
    if words.isEmpty then
      let sorted := (← self).aliases.mergeSort fun first second ↦
        first.1.isAtMost second.1
      print (sorted.flatMap line)
    else
      let statuses ← words.mapM fun word ↦ do
        let (name, text?) := assignment word
        match text? with
        | some text =>
          change fun process ↦
            { process with
              aliases := (name, text) :: process.aliases.filter (·.1 != name) }
          return 0
        | none =>
          match (← self).aliases.lookup name with
          | some text =>
            print (line (name, text))
            return 0
          | none =>
            let _ ← write 2 ("alias: ".toList ++ name ++ " not found\n".toList)
            return 1
      setStatus (if statuses.contains 1 then 1 else 0)

/-- Takes aliases away. -/
def unalias : Builtin :=
  plain "unalias" fun arguments ↦ do
    let (letters, names) ← options ['a'] arguments
    if letters.contains 'a' then
      change fun process ↦ { process with aliases := [] }
      setStatus 0
    else
      let statuses ← names.mapM fun name ↦ do
        if (← self).aliases.any (·.1 == name) then
          change fun process ↦
            { process with aliases := process.aliases.filter (·.1 != name) }
          return 0
        else
          let _ ← write 2 ("unalias: ".toList ++ name ++ " not found\n".toList)
          return 1
      setStatus (if statuses.contains 1 then 1 else 0)

/-- The builtins that print, answer and tell names. -/
def ofAnswers : List Builtin :=
  [test "test", test "[", echo, printf, constant "true" 0, constant "false" 1,
    special ":" fun _ ↦ setStatus 0, type, hash, «alias», unalias]

end Scaffold.Shell.Builtin
