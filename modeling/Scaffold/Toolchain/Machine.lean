import Scaffold.Shell.Evaluation
import Scaffold.Toolchain.Run

/-!
# Tools on a machine

A machine is a file tree and the directory one works in. Its tools are programs of its own and
shell scripts. `Machine.run` says how the run of a tool ends: it does not start if the program is
not there, may not be run, or is of no known format, and it is stopped when its time is used up.
What a tool did to the files stays, but for the directory that was made for its probe program.

The compiler and the package tool are whatever the user names, and where no compiler is at hand that
is a script. How its run ends, what it prints, how long it takes and which files it leaves for the
next run is what its commands do. So `Machine.run` needs a shell that runs scripts
(`Shell.Run.command`) and the utilities that such scripts start (`Shell.Utility.all`), and they are
here for nothing else: no decision looks into a script, and what is proved of decisions and of what
is generated holds for every way in which runs of tools may end. What is known of a machine without
looking into scripts is in `Proofs.Toolchain.Machine`.
-/

set_option autoImplicit false

namespace Scaffold

open Text (Octets)

/-- The files of a machine, and the directory one works in. -/
structure Machine where
  tree : FileTree
  here : Location
  deriving DecidableEq, Repr

namespace Machine

/-- The directories that a machine has. -/
def plainDirectories : List Location :=
  [["usr"], ["usr", "bin"], ["usr", "games"], ["usr", "include"], ["usr", "lib"],
    ["usr", "lib64"], ["usr", "libexec"], ["usr", "local"], ["usr", "local", "bin"],
    ["usr", "local", "etc"], ["usr", "local", "include"], ["usr", "local", "lib"],
    ["usr", "local", "sbin"], ["usr", "local", "share"], ["usr", "local", "src"],
    ["usr", "share"], ["usr", "share", "doc"], ["usr", "sbin"], ["usr", "src"], ["boot"], ["dev"],
    ["dev", "pts"], ["dev", "shm"], ["etc"], ["home"], ["media"], ["mnt"], ["opt"], ["proc"],
    ["proc", "self"], ["proc", "self", "fd"], ["root"], ["run"], ["srv"], ["sys"], ["tmp"],
    ["var"], ["var", "backups"], ["var", "cache"], ["var", "lib"], ["var", "local"],
    ["var", "log"], ["var", "mail"], ["var", "opt"], ["var", "spool"], ["var", "tmp"]]

/-- The links that a machine has. -/
def plainLinks : List (Location × Path) :=
  [(["bin"], ⟨"usr/bin"⟩), (["dev", "fd"], ⟨"/proc/self/fd"⟩), (["lib"], ⟨"usr/lib"⟩),
    (["lib64"], ⟨"usr/lib64"⟩), (["sbin"], ⟨"usr/sbin"⟩), (["var", "lock"], ⟨"/run/lock"⟩),
    (["var", "run"], ⟨"/run"⟩)]

/-- The names of the programs that a machine has. -/
def programNames : List String :=
  ["sh", "dash"] ++ Shell.Utility.launchers.map (·.1) ++ Shell.Utility.all.map (·.name)

/-- The users that a machine knows, each with a number, a group, a full name, a home and a shell. -/
def userLines : List String :=
  ["root:x:0:0:root:/root:/bin/bash", "daemon:x:1:1:daemon:/usr/sbin:/usr/sbin/nologin",
    "bin:x:2:2:bin:/bin:/usr/sbin/nologin", "sys:x:3:3:sys:/dev:/usr/sbin/nologin",
    "sync:x:4:65534:sync:/bin:/bin/sync", "games:x:5:60:games:/usr/games:/usr/sbin/nologin",
    "man:x:6:12:man:/var/cache/man:/usr/sbin/nologin",
    "lp:x:7:7:lp:/var/spool/lpd:/usr/sbin/nologin",
    "mail:x:8:8:mail:/var/mail:/usr/sbin/nologin",
    "news:x:9:9:news:/var/spool/news:/usr/sbin/nologin",
    "uucp:x:10:10:uucp:/var/spool/uucp:/usr/sbin/nologin",
    "proxy:x:13:13:proxy:/bin:/usr/sbin/nologin",
    "www-data:x:33:33:www-data:/var/www:/usr/sbin/nologin",
    "backup:x:34:34:backup:/var/backups:/usr/sbin/nologin",
    "list:x:38:38:Mailing List Manager:/var/list:/usr/sbin/nologin",
    "irc:x:39:39:ircd:/run/ircd:/usr/sbin/nologin",
    "_apt:x:42:65534::/nonexistent:/usr/sbin/nologin",
    "nobody:x:65534:65534:nobody:/nonexistent:/usr/sbin/nologin"]

/-- The groups that a machine knows, with their numbers. -/
def groupNumbers : List (String × Nat) :=
  [("root", 0), ("daemon", 1), ("bin", 2), ("sys", 3), ("adm", 4), ("tty", 5), ("disk", 6),
    ("lp", 7), ("mail", 8), ("news", 9), ("uucp", 10), ("man", 12), ("proxy", 13), ("kmem", 15),
    ("dialout", 20), ("fax", 21), ("voice", 22), ("cdrom", 24), ("floppy", 25), ("tape", 26),
    ("sudo", 27), ("audio", 29), ("dip", 30), ("www-data", 33), ("backup", 34), ("operator", 37),
    ("list", 38), ("irc", 39), ("src", 40), ("shadow", 42), ("utmp", 43), ("video", 44),
    ("sasl", 45), ("plugdev", 46), ("staff", 50), ("games", 60), ("users", 100),
    ("nogroup", 65534)]

/-- What a machine tells about its system. -/
def systemLines : List String :=
  ["PRETTY_NAME=\"Debian GNU/Linux 12 (bookworm)\"", "NAME=\"Debian GNU/Linux\"",
    "VERSION_ID=\"12\"", "VERSION=\"12 (bookworm)\"", "VERSION_CODENAME=bookworm", "ID=debian"]

/-- The texts that a machine has. -/
def plainTexts : List (Location × String) :=
  let lines := fun (texts : List String) ↦ String.join (texts.map (· ++ "\n"))
  [(["etc", "passwd"], lines userLines),
    (["etc", "group"], lines (groupNumbers.map fun (name, number) ↦
      name ++ ":x:" ++ toString number ++ ":")),
    (["etc", "hostname"], "localhost\n"), (["etc", "hosts"], "127.0.0.1\tlocalhost\n"),
    (["etc", "resolv.conf"], ""), (["etc", "fstab"], "# UNCONFIGURED FSTAB FOR BASE SYSTEM\n"),
    (["etc", "issue"], "Debian GNU/Linux 12 \\n \\l\n\n"), (["etc", "motd"], ""),
    (["etc", "os-release"], lines systemLines), (["etc", "debian_version"], "12.0\n"),
    (["etc", "profile"], ""), (["etc", "shadow"], ""),
    (["etc", "shells"], lines ["# /etc/shells: valid login shells", "/bin/sh", "/usr/bin/sh",
      "/bin/bash", "/usr/bin/bash", "/bin/rbash", "/usr/bin/rbash", "/bin/dash",
      "/usr/bin/dash"])]

/-- The devices that a machine has. -/
def deviceNames : List String :=
  ["null", "zero", "full", "random", "urandom", "tty", "stdin", "stdout", "stderr"]

/-- The files of a machine with nothing of its own. -/
def plainTree : FileTree :=
  ⟨plainDirectories.map (fun location ↦ (location, Entry.directory)) ++
    plainLinks.map (fun (location, target) ↦ (location, Entry.link target)) ++
    plainTexts.map (fun (location, text) ↦ (location, Entry.file (Text.Utf8.encode text) false)) ++
    deviceNames.map (fun name ↦ (["dev", name], Entry.file [] false)) ++
    programNames.map fun name ↦ (["usr", "bin", name], Entry.file [0x7F] true)⟩

/-- The directory in which a probe program is put. -/
def probeDirectory (tree : FileTree) : Location :=
  ["tmp", tree.freshName]

/-- The machine as a tool finds it: in a directory with its probe program, if there is one. -/
def forCall (machine : Machine) (call : ToolCall) : Machine :=
  match call.probe with
  | none => machine
  | some source =>
    let directory := probeDirectory machine.tree
    let file := Entry.file (Text.Utf8.encode source) false
    let place := directory ++ [Toolchain.probeFile]
    ⟨(machine.tree.put directory .directory).put place file, directory⟩

/-- What programs are told, whoever starts them. -/
def plainSettings : List (String × String) :=
  [("HOME", "/root"),
    ("PATH", "/usr/local/sbin:/usr/local/bin:/usr/sbin:/usr/bin:/sbin:/bin")]

/-- The octets that are kept of what a tool prints. -/
def outputRoom : Nat := 67108864

/-- The channels that a tool starts with: its output, its messages, and an empty input. -/
def channels : Array Shell.Channel :=
  #[.sink [] outputRoom, .sink [] outputRoom, .nothing]

/-- The world in which a tool starts, with so many milliseconds to run. -/
def world (machine : Machine) (limit : Nat) : Shell.World where
  tree := machine.tree
  records := []
  changes := 0
  channels := channels
  elapsed := 0
  limit := 1000 * limit
  nextProcess := Shell.firstProcess + 1
  signals := []
  jobs := []
  ended := []
  death := none
  busy := 0

/-- The process of a tool with settings. -/
def process (machine : Machine) (settings : List (Octets × Octets)) : Shell.Process where
  number := Shell.firstProcess
  shell := Shell.firstProcess
  script := []
  arguments := []
  here := machine.here
  place := Shell.locationText machine.here
  bindings := settings.map fun (name, value) ↦ (name, ⟨some value, true, false⟩)
  saved := []
  savedOptions := none
  level := 0
  functions := []
  aliases := []
  hashed := []
  traps := []
  status := 0
  outputStatus := none
  options := []
  isTested := false
  loops := 0
  descriptors := [(0, 2), (1, 0), (2, 1)]
  line := 0
  speaker := []
  optionIndex := 1
  optionOffset := none
  lastJob := none
  mask := 18
  niceness := 0

/-- The program that a tool is, with its path and arguments, or what keeps it from being started. -/
def program (state : Shell.State) (call : ToolCall) :
    Except SystemError (Octets × Shell.Program × List Octets) := do
  if (call.program :: call.arguments).any fun text ↦ text.toList.contains '\x00' then
    throw .zeroInArgument
  let name := Octets.ofText call.program
  match state.programPath? name with
  | none => throw (state.missing Shell.Process.plainPath name)
  | some path =>
    let words := (call.program :: call.arguments).map Octets.ofText
    match ← state.resolve Shell.State.interpreterLimit path words with
    | (.plain, _) => throw .badFormat
    | (program, words) => return (path, program, words)

/-- How deep a script may go. -/
def depthLimit : Nat := 20000

/-- Runs a command of a script. -/
def execute : Shell.Command → Shell.Run Unit :=
  Shell.Run.command depthLimit

/-- Runs a program up to the end of its jobs. -/
def runProgram (path : Octets) (program : Shell.Program) (words : List Octets)
    (settings : List (Octets × Octets)) : Shell.Run Unit := do
  let run := Shell.Run.launched execute Shell.Run.launchLimit
  let (status, _) ← Shell.Run.stopped (Shell.Run.start execute run path program words settings)
  Shell.Run.settle execute
  let world ← Shell.Run.world
  Shell.Run.spend (world.busy - world.elapsed)
  Shell.Run.setStatus status

/-- How the run of a tool ends on the machine as the tool finds it, and the files after it. -/
def runHere (machine : Machine) (settings : List (String × String)) (limit : Nat)
    (call : ToolCall) : ToolRun × FileTree :=
  let settings := (plainSettings ++ settings).map fun (name, value) ↦
    (Octets.ofText name, Octets.ofText value)
  let state : Shell.State := ⟨machine.world limit, machine.process settings⟩
  match program state call with
  | .error error => (.notStarted error, machine.tree)
  | .ok (path, program, words) =>
    match (runProgram path program words settings).run state with
    | .ok _ after =>
      let output := Octets.toBytes (after.world.collected 0)
      (.finished (after.process.status == 0) output, after.world.tree)
    | .error _ after => (.timedOut, after.world.tree)

/-- How the run of a tool ends, and the machine after it. -/
def run (machine : Machine) (settings : List (String × String)) (limit : Nat) (call : ToolCall) :
    ToolRun × Machine :=
  let (outcome, tree) := (machine.forCall call).runHere settings limit call
  match call.probe with
  | none => (outcome, { machine with tree })
  | some _ => (outcome, { machine with tree := tree.eraseBelow (probeDirectory machine.tree) })

/-- The reply of the machine, where programs are told settings, and each run of a tool may take so
many milliseconds. -/
def reply (settings : List (String × String)) (limit : Nat) :
    (query : ToolQuery) → Machine → query.Reply × Machine
  | .run call, machine => machine.run settings limit call
  | .pathExists path, machine => (machine.tree.pathExists machine.here path, machine)

/-- The settings that tell programs about the tools. -/
def toolSettings (tools : Toolchain) : List (String × String) :=
  [("CC", tools.compiler), ("PKG_CONFIG", tools.packageTool)]

/-- The answer of the tools on the machine. -/
def answer (tools : Toolchain) (question : Question) (machine : Machine) :
    question.Answer × Machine :=
  (tools.answer question).run (reply (toolSettings tools) tools.timeLimit) machine

end Machine

end Scaffold
