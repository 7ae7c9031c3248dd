import Scaffold.Shell.Errand
import Scaffold.Shell.Signal
import Scaffold.Shell.Utility.Amount
import Scaffold.Shell.Utility.Copying

/-!
# Utilities that run one program

What `timeout`, `nice` and others make of their arguments: a program to run, and the time that it
may take.
-/

set_option autoImplicit false

namespace Scaffold.Shell

open Text (Octets)

namespace Errand

/-- Complains about the arguments. -/
def misused (task : Task) (status : Nat) (text : String) : Errand :=
  ofEffect (task.misuse status text)

/-- Only tells where to read more about the arguments. -/
def hinted (task : Task) (status : Nat) : Errand :=
  write 2 (Octets.ofText ("Try '" ++ task.name ++ " --help' for more information.\n"))
    (done status)

/-! ### Time -/

/-- The number of a signal that `timeout` is to send. -/
def signalOf? (text : Octets) : Option Nat :=
  Signal.ofText? (if "SIG".toList.isPrefixOf text then text.drop 3 else text)

/-- What `timeout` does. -/
def ofTimeout (task : Task) : Errand :=
  let form : OptionForm :=
    ⟨['v', 'f', 'p'], ['k', 's'], [("kill-after", 'k'), ("signal", 's'), ("foreground", 'f'),
      ("preserve-status", 'p'), ("verbose", 'v')], true⟩
  match Options.parse form task.arguments with
  | .error text => misused task 125 text
  | .ok options =>
    let number? := ((options.value? 's').map signalOf?).getD (some 15)
    match number?, options.operands with
    | none, _ =>
      let name := Octets.toText ((options.value? 's').getD [])
      misused task 125 ("'" ++ name ++ "': invalid signal")
    | some number, time :: program :: rest =>
      match Utility.duration? time with
      | none => misused task 125 ("invalid time interval '" ++ Octets.toText time ++ "'")
      | some limit =>
        let order := task.order "failed to run command '" (program :: rest)
        let shown := "sending signal ".toList ++ Signal.name number ++
          " to command '".toList ++ program ++ ['\x27']
        run { order with timeLimit := if limit = 0 then none else some limit } fun outcome _ ↦
          match outcome.status with
          | some status => done status
          | none =>
            let end_ :=
              if number = Signal.kill then die number
              else done (if options.has 'p' then Signal.status number else 124)
            if options.has 'v' then write 2 (task.message shown) end_ else end_
    | _, _ => hinted task 125

/-! ### Others -/

/-- The arguments of `nice`, where a number after a hyphen in front of the program is the value of
an option. -/
def adjusted : List Octets → List Octets
  | [] => []
  | word :: rest =>
    match word with
    | ['-', 'n'] => word :: rest.take 1 ++ adjusted (rest.drop 1)
    | '-' :: text =>
      let digits := (Number.sign text).2
      if digits.head?.any Char.isDigit then ('-' :: 'n' :: text) :: adjusted rest
      else if text.head? = some 'n' ∨ text.contains '=' then word :: adjusted rest
      else word :: rest
    | word => word :: rest
termination_by words => words.length
decreasing_by all_goals grind

/-- The niceness that lies so far above another one, within its bounds. -/
def nicer (niceness adjustment : Int) : Int :=
  max (-20) (min 19 (niceness + adjustment))

/-- What `nice` does. -/
def ofNice (task : Task) : Errand :=
  match Options.parse ⟨[], ['n'], [("adjustment", 'n')], true⟩ (adjusted task.arguments) with
  | .error text => misused task 125 text
  | .ok options =>
    let adjustment? := ((options.value? 'n').map Number.decimal?).getD (some 10)
    match adjustment?, options.operands with
    | none, _ =>
      let wrong := (options.value? 'n').getD []
      ofEffect (task.complain 125 ("invalid adjustment ".toList ++ Quoting.plain wrong))
    | some _, [] =>
      if options.has 'n' then misused task 125 "a command must be given with an adjustment"
      else write 1 (Number.text task.niceness ++ ['\n']) (done 0)
    | some adjustment, words =>
      only { task.order "'" words with niceness := nicer task.niceness adjustment }

/-- What `nohup` does. -/
def ofNohup (task : Task) : Errand :=
  match Options.parse ⟨[], [], [], true⟩ task.arguments with
  | .error text => misused task 125 text
  | .ok options =>
    if options.operands.isEmpty then misused task 125 "missing operand"
    else only (task.order "failed to run command '" options.operands)

/-- What `setsid` does. -/
def ofSession (task : Task) : Errand :=
  let form : OptionForm :=
    ⟨['f', 'w', 'c'], [], [("fork", 'f'), ("wait", 'w'), ("ctty", 'c')], true⟩
  match Options.parse form task.arguments with
  | .error text => misused task 1 text
  | .ok options =>
    if options.operands.isEmpty then misused task 1 "no command specified"
    else only { task.order "failed to execute " options.operands with
      failure := (task.name ++ ": failed to execute ", "") }

end Errand

end Scaffold.Shell
