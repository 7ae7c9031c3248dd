import Scaffold.Shell.Utility.Basic

/-!
# Errands

A utility that has other programs run cannot say at once what it does: what it does next hangs on
how the program before ended, and on the files that it left. An `Errand` is a tree of such steps;
whoever runs it answers each order with the status of the program and with the task as it is then.
-/

set_option autoImplicit false

namespace Scaffold.Shell

open Text (Octets)

/-- A program to run, with its arguments and settings. -/
structure Order where
  words : List Octets
  settings : List (Octets × Octets)
  /-- Milliseconds that it may take. -/
  timeLimit : Option Nat
  niceness : Int
  /-- The directory to run it in, if it is another one. -/
  place : Option Octets
  /-- It reads nothing of the input. -/
  isSilent : Bool
  /-- It reads this in the place of the input. -/
  input : Option Octets
  /-- What it prints is kept for whoever gave the order. -/
  isCaught : Bool
  /-- Its name stands between these texts in a message that it cannot be run. -/
  failure : String × String

/-- What came of an order: the status, none if the time ran out, whether there was such a program,
the signal if one ended it, and what was printed if that was to be kept. -/
structure Outcome where
  status : Option Nat
  isStarted : Bool
  signal : Option Nat
  printed : Octets

/-- What a utility does that has other programs run. -/
inductive Errand
  /-- Ends with a status. -/
  | done (status : Nat)
  /-- Ends as if by a signal. -/
  | die (signal : Nat)
  /-- Ends with an effect; `failure` is the status if it cannot be written. -/
  | finish (failure : Nat) (effect : Effect)
  | write (descriptor : Nat) (text : Octets) (next : Errand)
  /-- Reads the input up to its end. -/
  | drain (next : Errand)
  /-- Changes the files. -/
  | store (tree : FileTree) (next : Errand)
  /-- Has a program run, and goes on with what came of it. -/
  | run (order : Order) (next : Outcome → Task → Errand)

namespace Errand

/-- Writes texts to descriptors, and goes on. -/
def writeAll (written : List (Nat × Octets)) (next : Errand) : Errand :=
  written.foldr (fun (descriptor, text) next ↦ write descriptor text next) next

/-- Writes what a utility writes that runs nothing, and ends. -/
def ofEffect (effect : Effect) : Errand :=
  writeAll effect.written (done effect.status)

/-- Has a program run, and ends with its status. -/
def only (order : Order) : Errand :=
  run order fun outcome _ ↦ done (outcome.status.getD 124)

/-- A text with another one in the place of a part. -/
def substituted (part new : Octets) : (left : Nat) → Octets → Octets
  | 0, text => text
  | _ + 1, [] => []
  | left + 1, c :: rest =>
    if part.isPrefixOf (c :: rest) && !part.isEmpty then
      new ++ substituted part new left ((c :: rest).drop part.length)
    else c :: substituted part new left rest

end Errand

namespace Task

/-- The order of a program in the settings of a task; `what` is said in front of its name if it
cannot be run. -/
def order (task : Task) (what : String) (words : List Octets) : Order :=
  ⟨words, task.settings, none, task.niceness, none, false, none, false,
    (task.name ++ ": " ++ what, "'")⟩

/-- The order of a shell that runs a command. -/
def shellOrder (task : Task) (command : Octets) : Order :=
  task.order "" ["sh".toList, "-c".toList, command]

end Task

/-- What a utility does that reads and writes as it runs, as far as the answers to its orders are
known: it ends, or it gives one more order. What it wrote before the last answer is not told again.
-/
inductive Progress
  | finished (effect : Effect)
  /-- The input is read up to its end before if `drains`. -/
  | ordered (written : List (Nat × Octets)) (tree : Option FileTree) (drains : Bool) (order : Order)

/-- What came of an order, and the files and the rest of the input after it. -/
structure Answer where
  outcome : Outcome
  tree : FileTree
  input : Octets

namespace Errand

/-- Has a utility run that starts anew with one more answer each time that it gave an order; at most
so many orders. `failure` is its status if it cannot write. -/
def retold (failure : Nat) (step : List Answer → Progress) : (left : Nat) → List Answer → Errand
  | 0, _ => done failure
  | left + 1, answers =>
    match step answers with
    | .finished effect => finish failure effect
    | .ordered written tree drains order =>
      let next := run order fun outcome task ↦
        retold failure step left (answers ++ [⟨outcome, task.tree, task.input⟩])
      let next := writeAll written (if drains then drain next else next)
      tree.elim next (store · next)

/-- The most orders that a utility may give. -/
def orderLimit : Nat := 10000

end Errand

end Scaffold.Shell
