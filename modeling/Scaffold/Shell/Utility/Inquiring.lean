import Scaffold.Shell.Utility.Naming

/-!
# Inquiries

Utilities that tell about the system, about who is running programs, and about what names of files
may look like.
-/

set_option autoImplicit false

namespace Scaffold.Shell.Utility

open Text (Octets)

/-! ### The system -/

/-- Tells about the system. -/
def uname : Utility :=
  ofOptions "uname" ⟨['a', 's', 'n', 'r', 'v', 'm', 'p', 'i', 'o'], [],
    [("all", 'a'), ("kernel-name", 's'), ("nodename", 'n'), ("kernel-release", 'r'),
      ("machine", 'm'), ("operating-system", 'o')], false⟩ 1 fun task options ↦
    let all := [('s', "Linux"), ('n', "localhost"), ('r', "6.1.0"), ('v', "#1 SMP"),
      ('m', "x86_64"), ('p', "x86_64"), ('i', "x86_64"), ('o', "GNU/Linux")]
    let shown := all.filter fun entry ↦
      options.has entry.1 || options.has 'a' || (options.found.isEmpty && entry.1 == 's')
    match options.operands with
    | extra :: _ => task.misuse 1 ("extra operand " ++ Octets.toText (Quoting.plain extra))
    | [] => task.finish 0 ((Text.joinWith " " (shown.map (·.2)) ++ "\n").toList)

/-- A utility without operands that says one thing. -/
def saying (name text : String) : Utility :=
  ofOptions name ⟨[], [], [], false⟩ 1 fun task options ↦
    match options.operands with
    | extra :: _ => task.misuse 1 ("extra operand " ++ Octets.toText (Quoting.plain extra))
    | [] => task.finish 0 ((text ++ "\n").toList)

/-- Tells how many programs may run at once. -/
def nproc : Utility :=
  ofOptions "nproc" ⟨['\x01'], ['\x02'], [("all", '\x01'), ("ignore", '\x02')], false⟩ 1
    fun task options ↦
    let wrong? := (options.values '\x02').find? fun text ↦ (Number.plain? text).isNone
    match wrong?, options.operands with
    | some wrong, _ => task.complain 1 ("invalid number: ".toList ++ Quoting.plain wrong)
    | none, extra :: _ => task.misuse 1 ("extra operand " ++ Octets.toText (Quoting.plain extra))
    | none, [] => task.finish 0 "1\n".toList

/-! ### Users -/

/-- Tells who is running programs. -/
def identity : Utility :=
  ofOptions "id" ⟨['a', 'u', 'g', 'G', 'n', 'r', 'z', 'Z'], [],
    [("user", 'u'), ("group", 'g'), ("groups", 'G'), ("name", 'n'), ("real", 'r'), ("zero", 'z'),
      ("context", 'Z')], false⟩ 1 fun task options ↦
    let isPart := options.has 'u' || options.has 'g' || options.has 'G'
    let text :=
      if !isPart then "uid=0(root) gid=0(root) groups=0(root)"
      else if options.has 'n' then "root" else "0"
    let ending := if options.has 'z' then '\x00' else '\n'
    let kinds := (['u', 'g', 'G'].filter options.has).length
    if options.has 'Z' then
      task.complain 1 "--context (-Z) works only on an SELinux-enabled kernel".toList
    else if kinds > 1 then task.complain 1 "cannot print \"only\" of more than one choice".toList
    else if !isPart && (options.has 'n' || options.has 'r') then
      task.complain 1 "cannot print only names or real IDs in default format".toList
    else if !isPart && options.has 'z' then
      task.complain 1 "option --zero not permitted in default format".toList
    else
      let names := if options.operands.isEmpty then ["root".toList] else options.operands
      let written := names.map fun name ↦
        if isOwner name then (1, text.toList ++ [ending])
        else (2, task.message (Quoting.plain name ++ ": no such user".toList))
      task.finishAll (if written.any (·.1 == 2) then 1 else 0) written false

/-! ### Settings -/

/-- Shows settings. -/
def printenv : Utility :=
  ofOptions "printenv" ⟨['z', '0'], [], [("null", '0')], true⟩ 2 fun task options ↦
    let ending := if options.has '0' then '\x00' else '\n'
    if options.operands.isEmpty then
      task.finish 0 (endedWith ending (task.settings.map fun (name, value) ↦ name ++ '=' :: value))
    else
      let values := options.operands.map fun name ↦ task.settings.lookup name
      task.finish (if values.all Option.isSome then 0 else 1)
        (endedWith ending (values.filterMap fun value ↦ value))

/-! ### Names of files -/

/-- What is wrong with a name, if all systems have to take it (`isPlain`), and if it may not be
taken for an option (`isSafe`). -/
def nameFault? (task : Task) (isPlain isSafe : Bool) (name : Octets) : Option Octets :=
  let shown := Quoting.plain name
  let parts := (Text.pieces (· == '/') name).filter (! ·.isEmpty)
  let isPortable := fun (c : Char) ↦ c.isAlphanum || ['.', '_', '-', '/'].contains c
  let exceeded := fun (limit length : Nat) (what : String) (text : Octets) ↦
    "limit ".toList ++ Number.digits 10 limit ++ " exceeded by length ".toList ++
      Number.digits 10 length ++ (" of file name " ++ what).toList ++ Quoting.plain text
  let longest := if isPlain then 14 else 255
  let entry := task.tree.entryAt task.here (pathOf name)
  if isSafe && parts.any (·.head? = some '-') then
    some ("leading '-' in a component of file name ".toList ++ shown)
  else if (isPlain || isSafe) && name.isEmpty then some "empty file name".toList
  else
    match isPlain, name.find? (! isPortable ·), entry with
    | true, some wrong, _ =>
      some ("nonportable character ".toList ++ Quoting.plain [wrong] ++ " in file name ".toList ++
        shown)
    | false, _, .error error =>
      if error != .notFound || name.isEmpty then
        some (Quoting.shellIfNeeded name ++ (": " ++ error.reason).toList)
      else lengthFault? exceeded longest parts
    | true, none, _ => lengthFault? exceeded longest parts
    | false, _, .ok _ => none
where
  /-- What is wrong with the length of a name or of its parts. -/
  lengthFault? (exceeded : Nat → Nat → String → Octets → Octets) (longest : Nat)
      (parts : List Octets) : Option Octets :=
    let most := if isPlain then 256 else 4096
    if most ≤ name.length then some (exceeded (most - 1) name.length "" name)
    else (parts.find? fun part ↦ longest < part.length).map fun part ↦
      exceeded longest part.length "component " part

/-- Checks names of files. -/
def pathchk : Utility :=
  ofOptions "pathchk" ⟨['p', 'P', '\x01'], [], [("portability", '\x01')], false⟩ 1
    fun task options ↦
    if options.operands.isEmpty then task.misuse 1 "missing operand"
    else
      let isPlain := options.has 'p' || options.has '\x01'
      let isSafe := options.has 'P' || options.has '\x01'
      let faults := options.operands.filterMap (nameFault? task isPlain isSafe)
      task.finishAll (if faults.isEmpty then 0 else 1)
        (faults.map fun fault ↦ (2, task.message fault)) false

/-- The utilities for inquiries. -/
def ofInquiring : List Utility :=
  [uname, saying "whoami" "root", saying "arch" "x86_64", nproc, saying "hostname" "localhost",
    identity, printenv, pathchk]

end Scaffold.Shell.Utility
