import Scaffold.Shell.Number

/-!
# Signals

Signals have numbers and names, and number zero stands for the end of a process. `Signal.ofText?`
reads either.
-/

set_option autoImplicit false

namespace Scaffold.Shell

open Text (Octets)

/-- What a signal does to a process that says nothing about it. -/
inductive SignalEffect
  | kills
  | stops
  | nothing
  deriving DecidableEq, Repr

namespace Signal

/-- The names of the signals that have a meaning, from number zero on; one has its number alone. -/
def plainNames : List String :=
  ["EXIT", "HUP", "INT", "QUIT", "ILL", "TRAP", "ABRT", "BUS", "FPE", "KILL", "USR1", "SEGV",
    "USR2", "PIPE", "ALRM", "TERM", "16", "CHLD", "CONT", "STOP", "TSTP", "TTIN", "TTOU", "URG",
    "XCPU", "XFSZ", "VTALRM", "PROF", "WINCH", "IO", "PWR", "SYS", "32", "33", "RTMIN"]

/-- The names of all signals, from number zero on. -/
def names : List String :=
  plainNames ++ (List.range 15).map (fun index ↦ "RTMIN+" ++ toString (index + 1)) ++
    (List.range 14).map (fun index ↦ "RTMAX-" ++ toString (14 - index)) ++ ["RTMAX"]

/-- The name of a signal. -/
def name (signal : Nat) : Octets :=
  (names[signal]?.map String.toList).getD (Number.digits 10 signal)

/-- The signal that a text names, by its number or its name. -/
def ofText? (text : Octets) : Option Nat :=
  match Number.plain? text with
  | some number => if number < names.length then some number else none
  | none => names.findIdx? fun name ↦ name.toList == text.map Char.toUpper

/-- The signal that ends a process in any case. -/
def kill : Nat := 9

/-- The signal of a process that writes where nobody reads any more. -/
def brokenPipe : Nat := 13

/-- The signal that is sent where none is named. -/
def terminate : Nat := 15

/-- A process can say what happens on a signal. -/
def isCatchable (signal : Nat) : Bool :=
  signal != kill && signal != 19

/-- What a signal does to a process that says nothing about it. -/
def effect (signal : Nat) : SignalEffect :=
  if signal = 0 ∨ [17, 18, 23, 28].contains signal then .nothing
  else if [19, 20, 21, 22].contains signal then .stops
  else .kills

/-- What signals are called when they end a process. -/
def meanings : List String :=
  ["Hangup", "Interrupt", "Quit", "Illegal instruction", "Trace/breakpoint trap", "Aborted",
    "Bus error", "Floating point exception", "Killed", "User defined signal 1",
    "Segmentation fault", "User defined signal 2", "Broken pipe", "Alarm clock", "Terminated",
    "Stack fault", "Child exited", "Continued", "Stopped (signal)", "Stopped",
    "Stopped (tty input)", "Stopped (tty output)", "Urgent I/O condition",
    "CPU time limit exceeded", "File size limit exceeded", "Virtual timer expired",
    "Profiling timer expired", "Window changed", "I/O possible", "Power failure",
    "Bad system call"]

/-- What is said of a process that a signal ended; nothing of one that was interrupted, or wrote
where nobody reads. -/
def obituary (signal : Nat) : Octets :=
  if signal = 2 ∨ signal = brokenPipe then []
  else
    let text := (meanings[signal - 1]?).getD
      (if signal < 34 then "Unknown signal " ++ toString signal
      else "Real-time signal " ++ toString (signal - 34))
    (text ++ "\n").toList

/-- The status of a process that a signal ended. -/
def status (signal : Nat) : Nat :=
  128 + signal

end Signal

end Scaffold.Shell
