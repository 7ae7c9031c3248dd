import Scaffold.Shell.State

/-!
# Commands of the shell

A builtin is a command that the shell carries out by itself. What goes wrong in a special one ends
the script; with any other one it is left at a status. Options are letters before the operands, up
to `--`.
-/

set_option autoImplicit false

namespace Scaffold.Shell

open Text (Octets)

/-- A command of the shell that runs no other one. -/
structure Builtin where
  name : String
  isSpecial : Bool
  run : List Octets → Run Unit

namespace Builtin

/-- A builtin whose failure is left at a status. -/
def plain (name : String) (run : List Octets → Run Unit) : Builtin :=
  ⟨name, false, run⟩

/-- A builtin whose failure ends the script. -/
def special (name : String) (run : List Octets → Run Unit) : Builtin :=
  ⟨name, true, run⟩

/-- Reads the options in front of the operands: letters without a value. -/
def options (allowed : List Char) : List Octets → Run (List Char × List Octets)
  | ['-', '-'] :: operands => return ([], operands)
  | ('-' :: letter :: letters) :: rest => do
    match (letter :: letters).find? fun c ↦ !allowed.contains c with
    | some wrong => Run.fail ("Illegal option -".toList ++ [wrong])
    | none =>
      let (others, operands) ← options allowed rest
      return (letter :: letters ++ others, operands)
  | operands => return ([], operands)

/-- Reads the options in front of the operands: letters, of which some have a value. -/
def optionsWith (flags valued : List Char) :
    List Octets → Run (List (Char × Octets) × List Octets)
  | ['-', '-'] :: operands => return ([], operands)
  | ('-' :: letter :: letters) :: rest => do
    let given := letter :: letters
    let plain := given.takeWhile fun c ↦ flags.contains c
    let found := plain.map fun c ↦ (c, [])
    match given.drop plain.length, rest with
    | [], rest =>
      let (others, operands) ← optionsWith flags valued rest
      return (found ++ others, operands)
    | next :: value, rest =>
      if !valued.contains next then Run.fail ("Illegal option -".toList ++ [next])
      match value, rest with
      | [], [] => Run.fail ("No arg for -".toList ++ next :: " option".toList)
      | [], value :: rest =>
        let (others, operands) ← optionsWith flags valued rest
        return (found ++ (next, value) :: others, operands)
      | value, rest =>
        let (others, operands) ← optionsWith flags valued rest
        return (found ++ (next, value) :: others, operands)
  | operands => return ([], operands)

/-- The number that a word is; it has to be one. -/
def number (word : Octets) : Run Nat :=
  match Number.plain? word with
  | some value => return value
  | none => Run.fail ("Illegal number: ".toList ++ word)

/-- A text between apostrophes, as a script would write it. -/
def quoted (text : Octets) : Octets :=
  let apostrophes := fun (count : Nat) ↦
    if count = 0 then [] else '\x22' :: List.replicate count '\x27' ++ ['\x22']
  let rec go : (held : Octets) → (count : Nat) → Octets → Octets
    | held, count, [] =>
      (if held.isEmpty then [] else '\x27' :: held.reverse ++ ['\x27']) ++ apostrophes count
    | held, count, c :: rest =>
      if c = '\x27' then go held (count + 1) rest
      else if count = 0 then go (c :: held) 0 rest
      else
        let before := if held.isEmpty then [] else '\x27' :: held.reverse ++ ['\x27']
        before ++ apostrophes count ++ go [c] 0 rest
  if text.isEmpty then ['\x27', '\x27'] else go [] 0 text

/-- Splits a word `NAME=VALUE`. -/
def assignment (word : Octets) : Octets × Option Octets :=
  let name := word.takeWhile (· != '=')
  (name, if name.length < word.length then some (word.drop (name.length + 1)) else none)

/-- Requires a name. -/
def requireName (name : Octets) : Run Unit :=
  let isStart := fun (c : Char) ↦ c.isAlpha || c == '_'
  if name.head?.any isStart && name.all fun c ↦ isStart c || c.isDigit then pure ()
  else Run.fail (name ++ ": bad variable name".toList)

end Builtin

end Scaffold.Shell
