import Scaffold.Text.Octets

/-!
# Shell commands

A script is a list of commands. A word is a list of parts, which are text or stand for text that is
known when the command runs.
-/

set_option autoImplicit false

namespace Scaffold.Shell

open Text (Octets)

/-- What is done about a parameter that is not set. -/
inductive Fallback
  | use
  | assign
  | alternative
  | complain
  deriving DecidableEq, Repr

/-- The end of a value that a pattern is removed from. -/
inductive Edge
  | start
  | finish
  deriving DecidableEq, Repr

/-- How a redirection opens a file. A file that is made must not be there already when the script
asks for that, and `replace` makes one in any case. -/
inductive FileMode
  | read
  | make
  | replace
  | append
  | update
  deriving DecidableEq, Repr

mutual

/-- A part of a word. -/
inductive Part
  | text (octets : Octets) (isQuoted : Bool)
  /-- The home directory of a user, or of the one who runs the script. -/
  | home (user : Octets)
  | parameter (name : Octets) (change : Change) (isQuoted : Bool)
  | output (script : List Command) (isQuoted : Bool)
  | number (expression : List Part) (isQuoted : Bool)

/-- What is made of the value of a parameter. -/
inductive Change
  | keep
  | length
  | fallback (kind : Fallback) (countsEmpty : Bool) (word : List Part)
  | remove (edge : Edge) (isLongest : Bool) (pattern : List Part)
  | unknown

/-- A change of where a command reads or writes. -/
inductive Redirection
  | file (descriptor : Nat) (mode : FileMode) (target : List Part)
  | copy (descriptor : Nat) (source : List Part)
  | text (descriptor : Nat) (body : List Part)

/-- A command. A simple command knows its line. -/
inductive Command
  | simple (line : Nat) (assignments : List (Octets × List Part)) (words : List (List Part))
      (redirections : List Redirection)
  | redirected (line : Nat) (body : Command) (redirections : List Redirection)
  | group (body : List Command)
  | subshell (body : List Command)
  | background (body : Command)
  | both (first second : Command)
  | either (first second : Command)
  | negated (command : Command)
  | pipeline (commands : List Command)
  | choose (condition yes no : List Command)
  | loop (isUntil : Bool) (condition body : List Command)
  | each (line : Nat) (name : Octets) (words : List (List Part)) (body : List Command)
  | select (line : Nat) (subject : List Part) (arms : List (List (List Part) × List Command))
  | define (name : Octets) (body : Command)

end

/-- A word: parts that are put together. -/
abbrev Word := List Part

end Scaffold.Shell
