import Scaffold.Path

/-!
# What can go wrong

`SystemError` is what the operating system answers instead of doing what it was asked.
`Malformation` is what is wrong with a placeholder. `Fault` is an error of a generation run: it
either stops the whole run (`Fault.stopsRun`) or spoils a single artifact.
-/

set_option autoImplicit false

namespace Scaffold

/-- An answer of the operating system in place of a result. -/
inductive SystemError
  | notFound
  | notPermitted
  | noDevice
  | noRoom
  | badFormat
  | badDescriptor
  | denied
  | busy
  | exists
  | notDirectory
  | isDirectory
  | nameTooLong
  | tooManyLinks
  | zeroInName
  | zeroInArgument
  | invalidText
  deriving DecidableEq, Repr

namespace SystemError

/-- What a system error says. -/
def reason : SystemError → String
  | notFound => "No such file or directory"
  | notPermitted => "Operation not permitted"
  | noDevice => "No such device or address"
  | noRoom => "No space left on device"
  | badFormat => "Exec format error"
  | badDescriptor => "Bad file descriptor"
  | denied => "Permission denied"
  | busy => "Device or resource busy"
  | «exists» => "File exists"
  | notDirectory => "Not a directory"
  | isDirectory => "Is a directory"
  | nameTooLong => "File name too long"
  | tooManyLinks => "Too many levels of symbolic links"
  | zeroInName => "file name contained an unexpected NUL byte"
  | zeroInArgument => "nul byte found in provided data"
  | invalidText => "stream did not contain valid UTF-8"

/-- The number of a system error; those found before the system was asked have none. -/
def number? : SystemError → Option Nat
  | notFound => some 2
  | notPermitted => some 1
  | noDevice => some 6
  | noRoom => some 28
  | badFormat => some 8
  | badDescriptor => some 9
  | denied => some 13
  | busy => some 16
  | «exists» => some 17
  | notDirectory => some 20
  | isDirectory => some 21
  | nameTooLong => some 36
  | tooManyLinks => some 40
  | zeroInName | zeroInArgument | invalidText => none

/-- The text of a system error with its number. -/
def message (error : SystemError) : String :=
  match error.number? with
  | some number => error.reason ++ " (os error " ++ toString number ++ ")"
  | none => error.reason

end SystemError

/-- What is wrong with a placeholder. -/
inductive Malformation
  | unterminated
  | invalidName (text : String)
  deriving DecidableEq, Repr

/-- The reason given for a malformed template. -/
def Malformation.message : Malformation → String
  | unterminated => "unterminated placeholder"
  | invalidName text => "invalid token name '" ++ text ++ "'"

/-- An error of a generation run. -/
inductive Fault
  | unresolvedToken (token template : String)
  | malformedTemplate (template : String) (offset : Nat) (reason : Malformation)
  | derivationCycle (token : String)
  | conflictingToken (token : String)
  | pathNotFound (dependency : String) (path : Path)
  | overrideUnusable (dependency : String) (path : Path)
  | requiredMissing (dependency : String)
  | writeFailure (path : Path) (cause : SystemError)
  | duplicateDestination (path : Path)
  | missingTemplate (name : String)
  deriving DecidableEq, Repr

namespace Fault

/-- The error as it is shown. -/
def message : Fault → String
  | unresolvedToken token template =>
    "Template '" ++ template ++ "' references unresolved token '" ++ token ++ "'"
  | malformedTemplate template offset reason =>
    "Malformed template '" ++ template ++ "' at byte " ++ toString offset ++ ": " ++ reason.message
  | derivationCycle token => "Token '" ++ token ++ "' is derived from itself"
  | conflictingToken token => "Token '" ++ token ++ "' is defined twice with different values"
  | pathNotFound dependency path =>
    "Override path for dependency '" ++ dependency ++ "' does not exist: " ++ path.text
  | overrideUnusable dependency path =>
    "Unable to find a usable '" ++ dependency ++ "' in directory: " ++ path.text
  | requiredMissing dependency => "Unable to find a supported '" ++ dependency ++ "' on the system"
  | writeFailure path cause => "Failed to write " ++ path.text ++ ": " ++ cause.message
  | duplicateDestination path => "More than one artifact targets " ++ path.text
  | missingTemplate name => "Template '" ++ name ++ "' not found in corpus"

/-- The error stops the whole run rather than a single artifact. -/
def stopsRun : Fault → Bool
  | pathNotFound .. | overrideUnusable .. | requiredMissing .. | duplicateDestination ..
  | missingTemplate .. | malformedTemplate .. => true
  | unresolvedToken .. | derivationCycle .. | conflictingToken .. | writeFailure .. => false

end Fault

end Scaffold
