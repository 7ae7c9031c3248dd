import Scaffold.Shell.Errand

/-!
# What utilities say of themselves

The first line that a utility prints about its use, and the one about its version.
-/

set_option autoImplicit false

namespace Scaffold.Shell.Utility

open Text (Octets)

/-- How utilities are used: what stands after their names. -/
def uses : List (String × String) :=
  [("basename", " NAME [SUFFIX]"),
    ("cat", " [OPTION]... [FILE]..."),
    ("chmod", " [OPTION]... MODE[,MODE]... FILE..."),
    ("cksum", " [OPTION]... [FILE]..."),
    ("comm", " [OPTION]... FILE1 FILE2"),
    ("cp", " [OPTION]... [-T] SOURCE DEST"),
    ("cut", " OPTION... [FILE]..."),
    ("date", " [OPTION]... [+FORMAT]"),
    ("dd", " [OPERAND]..."),
    ("dirname", " [OPTION] NAME..."),
    ("echo", " [SHORT-OPTION]... [STRING]..."),
    ("false", " [ignored command line arguments]"),
    ("true", " [ignored command line arguments]"),
    ("env", " [OPTION]... [-] [NAME=VALUE]... [COMMAND [ARG]...]"),
    ("expand", " [OPTION]... [FILE]..."),
    ("expr", " EXPRESSION"),
    ("fmt", " [-WIDTH] [OPTION]... [FILE]..."),
    ("fold", " [OPTION]... [FILE]..."),
    ("head", " [OPTION]... [FILE]..."),
    ("id", " [OPTION]... [USER]..."),
    ("install", " [OPTION]... [-T] SOURCE DEST"),
    ("join", " [OPTION]... FILE1 FILE2"),
    ("ln", " [OPTION]... [-T] TARGET LINK_NAME"),
    ("ls", " [OPTION]... [FILE]..."),
    ("md5sum", " [OPTION]... [FILE]..."),
    ("mkdir", " [OPTION]... DIRECTORY..."),
    ("mkfifo", " [OPTION]... NAME..."),
    ("mktemp", " [OPTION]... [TEMPLATE]"),
    ("mv", " [OPTION]... [-T] SOURCE DEST"),
    ("nice", " [OPTION] [COMMAND [ARG]...]"),
    ("nl", " [OPTION]... [FILE]..."),
    ("nohup", " COMMAND [ARG]..."),
    ("nproc", " [OPTION]..."),
    ("od", " [OPTION]... [FILE]..."),
    ("paste", " [OPTION]... [FILE]..."),
    ("pathchk", " [OPTION]... NAME..."),
    ("printenv", " [OPTION]... [VARIABLE]..."),
    ("pwd", " [OPTION]..."),
    ("readlink", " [OPTION]... FILE..."),
    ("realpath", " [OPTION]... FILE..."),
    ("rev", " [options] [file ...]"),
    ("rm", " [OPTION]... [FILE]..."),
    ("rmdir", " [OPTION]... DIRECTORY..."),
    ("seq", " [OPTION]... LAST"),
    ("sha1sum", " [OPTION]... [FILE]..."),
    ("sha224sum", " [OPTION]... [FILE]..."),
    ("sha256sum", " [OPTION]... [FILE]..."),
    ("sha384sum", " [OPTION]... [FILE]..."),
    ("sha512sum", " [OPTION]... [FILE]..."),
    ("b2sum", " [OPTION]... [FILE]..."),
    ("base32", " [OPTION]... [FILE]"),
    ("base64", " [OPTION]... [FILE]"),
    ("sleep", " NUMBER[SUFFIX]..."),
    ("sort", " [OPTION]... [FILE]..."),
    ("split", " [OPTION]... [FILE [PREFIX]]"),
    ("stat", " [OPTION]... FILE..."),
    ("sum", " [OPTION]... [FILE]..."),
    ("tac", " [OPTION]... [FILE]..."),
    ("tail", " [OPTION]... [FILE]..."),
    ("tee", " [OPTION]... [FILE]..."),
    ("timeout", " [OPTION] DURATION COMMAND [ARG]..."),
    ("touch", " [OPTION]... FILE..."),
    ("tr", " [OPTION]... STRING1 [STRING2]"),
    ("truncate", " OPTION... FILE..."),
    ("uname", " [OPTION]..."),
    ("unexpand", " [OPTION]... [FILE]..."),
    ("uniq", " [OPTION]... [INPUT [OUTPUT]]"),
    ("wc", " [OPTION]... [FILE]..."),
    ("whoami", " [OPTION]..."),
    ("yes", " [STRING]..."),
    ("find", " [-H] [-L] [-P] [-Olevel] [-D debugopts] [path...] [expression]"),
    ("xargs", " [OPTION]... COMMAND [INITIAL-ARGS]..."),
    ("diff", " [OPTION]... FILES"),
    ("cmp", " [OPTION]... FILE1 [FILE2 [SKIP1 [SKIP2]]]")]

/-- The collection that a utility is a part of. -/
def collectionOf (name : String) : String :=
  if name = "rev" then "from util-linux 2.38.1"
  else if ["find", "xargs"].contains name then "(GNU findutils) 4.9.0"
  else if ["diff", "cmp"].contains name then "(GNU diffutils) 3.8"
  else if name = "dd" then "(coreutils) 9.1"
  else "(GNU coreutils) 9.1"

/-- The utilities that print something about themselves only if nothing else is asked. -/
def reserved : List String :=
  ["echo", "expr", "false", "true"]

/-- What a utility prints about itself if it is asked to. -/
def about? (name : String) (task : Task) : Option Octets := do
  let use ← uses.lookup name
  let word ← task.arguments.head?
  if reserved.contains name && task.arguments.length > 1 then none
  if word = "--help".toList then
    some ("Usage: " ++ task.name ++ use ++ "\n").toList
  else if word = "--version".toList then
    some (name ++ " " ++ collectionOf name ++ "\n").toList
  else none

/-- A utility that tells about itself if it is asked to. -/
def telling (utility : Utility) : Utility :=
  { utility with
    run := fun task ↦
      match about? utility.name task with
      | some text => task.finish 0 text
      | none => utility.run task }

/-- The same for a utility of a name that has other programs run. -/
def tellingErrand (name : String) (errand : Task → Errand) (task : Task) : Errand :=
  match about? name task with
  | some text => .write 1 text (.done 0)
  | none => errand task

end Scaffold.Shell.Utility
