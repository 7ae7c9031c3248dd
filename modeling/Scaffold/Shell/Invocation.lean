import Scaffold.Shell.Builtin.Control
import Scaffold.Shell.Builtin.Variables

/-!
# Calling the shell

How the arguments of a shell say what to run (`Invocation.ofArguments`), and the process that a
shell starts with (`Process.start`).
-/

set_option autoImplicit false

namespace Scaffold.Shell

open Text (Octets)

/-- What a shell is told to run: a command, a script in a file, or its input. -/
inductive Body
  | command (text : Octets)
  | file (path : Octets)
  | input
  deriving DecidableEq, Repr

/-- What a shell is told. -/
structure Invocation where
  options : List Char
  body : Body
  script : Octets
  arguments : List Octets
  deriving Repr

namespace Invocation

/-- The invocation that letters and operands give, in a shell of a name. -/
def ofOperands (name : Octets) (letters : List Char) (operands : List Octets) :
    Except Octets Invocation :=
  let options := letters.filter fun c ↦ c != 'c' && c != 's' && c != 'l'
  if letters.contains 'c' then
    match operands with
    | [] => .error "-c requires an argument".toList
    | text :: rest => .ok ⟨options, .command text, rest.headD name, rest.drop 1⟩
  else
    match operands with
    | file :: rest =>
      if letters.contains 's' then .ok ⟨'s' :: options, .input, name, operands⟩
      else .ok ⟨options, .file file, file, rest⟩
    | [] => .ok ⟨'s' :: options, .input, name, []⟩

/-- Reads the arguments of a shell of a name, after the letters that were read before. -/
def read (name : Octets) : (letters : List Char) → List Octets → Except Octets Invocation
  | letters, ['-'] :: rest => ofOperands name letters rest
  | letters, ['-', '-'] :: rest => ofOperands name letters rest
  | letters, word :: rest =>
    match word with
    | sign :: first :: others =>
      if sign = '-' ∨ sign = '+' then
        let given := first :: others
        let allowed := 'c' :: 'l' :: 'o' :: Builtin.optionLetters
        let apply := fun (letters given : List Char) ↦
          if sign = '-' then given ++ letters else letters.filter fun c ↦ !given.contains c
        match given.find? fun c ↦ !allowed.contains c with
        | some wrong => .error ("Illegal option ".toList ++ [sign, wrong])
        | none =>
          let plain := given.filter (· != 'o')
          if plain.length = given.length then read name (apply letters given) rest
          else
            match rest with
            | [] => read name (apply letters plain) []
            | option :: rest =>
              match Builtin.optionNames.find? fun entry ↦ entry.1.toList == option with
              | some (_, letter) => read name (apply letters (letter :: plain)) rest
              | none => .error ("Illegal option -o ".toList ++ option)
      else ofOperands name letters (word :: rest)
    | word => ofOperands name letters (word :: rest)
  | letters, [] => ofOperands name letters []

/-- Reads the arguments of a shell of a name. -/
def ofArguments (name : Octets) (arguments : List Octets) : Except Octets Invocation :=
  read name [] arguments

end Invocation

namespace Process

/-- The variables that a shell has in any case. -/
def plainBindings (parent : Nat) : List (Octets × Binding) :=
  [("IFS", " \t\n"), ("OPTIND", "1"), ("PS1", "# "), ("PS2", "> "), ("PS4", "+ "),
    ("PPID", toString parent)].map fun (name, value) ↦
      (name.toList, ⟨some value.toList, false, false⟩)

/-- Where programs are looked for unless something else is said. -/
def plainPath : Octets :=
  "/usr/local/sbin:/usr/local/bin:/usr/sbin:/usr/bin:/sbin:/bin".toList

/-- The process of a shell that is started from another process, with the variables that it is told
about. -/
def start (parent : Process) (tree : FileTree) (invocation : Invocation)
    (settings : List (Octets × Octets)) (number : Nat) : Process :=
  let isName := fun (name : Octets) ↦
    name.head?.any (fun c ↦ c.isAlpha || c == '_') && name.all fun c ↦ c.isAlphanum || c == '_'
  let own := plainBindings parent.number
  let given := (settings.filter fun entry ↦ isName entry.1 && (own.lookup entry.1).isNone).map
    fun (name, value) ↦ (name, (⟨some value, true, false⟩ : Binding))
  let told := (given.lookup "PWD".toList).bind (·.value)
  let isTrue := fun (place : Octets) ↦
    place.head? == some '/' && (tree.locate [] (pathOf place) true).toOption == some parent.here
  let place := (told.filter isTrue).getD (locationText parent.here)
  let path :=
    if (given.lookup "PATH".toList).isSome then []
    else [("PATH".toList, (⟨some plainPath, false, false⟩ : Binding))]
  let given := given.filter (·.1 != "PWD".toList)
  { parent with
    number
    shell := number
    script := invocation.script
    arguments := invocation.arguments
    place
    bindings := ("PWD".toList, ⟨some place, true, false⟩) :: path ++ own ++ given
    saved := []
    savedOptions := none
    level := 0
    functions := []
    aliases := []
    hashed := []
    traps := parent.traps.filter (·.2.isEmpty)
    status := 0
    outputStatus := none
    options := invocation.options
    isTested := false
    loops := 0
    line := 0
    speaker := []
    optionIndex := 1
    optionOffset := none
    lastJob := none }

end Process

end Scaffold.Shell
