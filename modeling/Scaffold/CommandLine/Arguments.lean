import Scaffold.Text.Cut

/-!
# Options and operands

Arguments are read from left to right up to the first that is wrong or asks for help. An option is
given by its name after two dashes or by its letter after one; letters can be put together, and a
value can follow as the next argument, after an equals sign, or right after a letter. A value that
is an argument of its own does not begin with a dash, a dash by itself aside. After `--` every
argument is an operand.
-/

set_option autoImplicit false

namespace Scaffold.CommandLine

/-- What is wrong with the arguments. -/
inductive UsageError
  | unexpected (argument : String)
  | noValue (option : String)
  | surplusValue (option value : String)
  | invalidValue (option value : String)
  | repeated (option : String)
  | missing (operand : String)
  | noCommand
  | unknownCommand (name : String)
  deriving DecidableEq, Repr

/-- The error as it is shown. -/
def UsageError.message : UsageError → String
  | unexpected argument => "unexpected argument '" ++ argument ++ "' found"
  | noValue option => "a value is required for '" ++ option ++ "' but none was supplied"
  | surplusValue option value =>
    "unexpected value '" ++ value ++ "' for '" ++ option ++ "' found; no more were expected"
  | invalidValue option value => "invalid value '" ++ value ++ "' for '" ++ option ++ "'"
  | repeated option => "the argument '" ++ option ++ "' cannot be used multiple times"
  | missing operand => "the following required arguments were not provided:\n  " ++ operand
  | noCommand => "a subcommand is required but one was not provided"
  | unknownCommand name => "unrecognized subcommand '" ++ name ++ "'"

/-- Why reading the arguments ends early. -/
inductive Interruption
  | help
  | version
  | usage (error : UsageError)
  deriving DecidableEq, Repr

/-- What an option stands for: a question about the program, a flag that can be given once or any
number of times, or a value that can be given once or any number of times. -/
inductive Action
  | help
  | version
  | flag
  | count
  | value (accepts : String → Bool)
  | values

/-- An option: its name, its letter, and what it stands for. -/
structure OptionForm where
  name : String
  letter : Option Char
  action : Action

/-- The option as it is shown. -/
def OptionForm.text (form : OptionForm) : String :=
  "--" ++ form.name

/-- What the arguments gave: options with their values, and operands, in order. -/
structure Given where
  options : List (String × String)
  operands : List String
  deriving DecidableEq, Repr

namespace Given

/-- Nothing was given yet. -/
def empty : Given :=
  ⟨[], []⟩

/-- The values of an option, in order. -/
def values (given : Given) (name : String) : List String :=
  (given.options.filter fun entry ↦ entry.1 == name).map (·.2)

/-- The value of an option. -/
def value? (given : Given) (name : String) : Option String :=
  (given.values name).head?

/-- The option was given. -/
def has (given : Given) (name : String) : Bool :=
  !(given.values name).isEmpty

/-- The options with one more. -/
def withOption (given : Given) (form : OptionForm) (value : String) : Given :=
  { given with options := given.options ++ [(form.name, value)] }

/-- Takes an option without a value. -/
def takeFlag (given : Given) (form : OptionForm) : Except Interruption Given :=
  match form.action with
  | .help => .error .help
  | .version => .error .version
  | .flag =>
    if given.has form.name then .error (.usage (.repeated form.text))
    else .ok (given.withOption form "")
  | .count => .ok (given.withOption form "")
  | .value _ => .error (.usage (.noValue form.text))
  | .values => .error (.usage (.noValue form.text))

/-- Takes an option with a value. -/
def takeValue (given : Given) (form : OptionForm) (value : String) : Except Interruption Given :=
  match form.action with
  | .value accepts =>
    if given.has form.name then .error (.usage (.repeated form.text))
    else if accepts value then .ok (given.withOption form value)
    else .error (.usage (.invalidValue form.text value))
  | .values => .ok (given.withOption form value)
  | _ => .error (.usage (.surplusValue form.text value))

end Given

namespace OptionForm

/-- The option takes a value. -/
def takesValue (form : OptionForm) : Bool :=
  match form.action with
  | .value _ => true
  | .values => true
  | _ => false

end OptionForm

/-- The options and operands that a command knows. -/
structure Usage where
  forms : List OptionForm
  operandLimit : Nat
  acceptsOperand : String → Bool

namespace Usage

/-- What was given so far, and the option that the next argument is the value of. -/
abbrev Progress := Given × Option OptionForm

/-- Reads letters that were put together. -/
def readLetters (usage : Usage) (argument : String) (given : Given) :
    List Char → Except Interruption Progress
  | [] => .ok (given, none)
  | letter :: rest =>
    match usage.forms.find? fun form ↦ form.letter == some letter with
    | none => .error (.usage (.unexpected argument))
    | some form =>
      if form.takesValue then
        match rest with
        | [] => .ok (given, some form)
        | '=' :: value => (given.takeValue form (String.ofList value)).map fun given ↦ (given, none)
        | value => (given.takeValue form (String.ofList value)).map fun given ↦ (given, none)
      else do
        let given ← given.takeFlag form
        usage.readLetters argument given rest

/-- Reads what follows two dashes. -/
def readName (usage : Usage) (argument : String) (given : Given) (text : String) :
    Except Interruption Progress :=
  let (name, value?) :=
    match Text.cutAt? '=' text with
    | some (name, value) => (name, some value)
    | none => (text, none)
  match usage.forms.find? fun form ↦ form.name == name with
  | none => .error (.usage (.unexpected argument))
  | some form =>
    match value? with
    | some value => (given.takeValue form value).map fun given ↦ (given, none)
    | none =>
      if form.takesValue then .ok (given, some form)
      else (given.takeFlag form).map fun given ↦ (given, none)

/-- Takes an operand. -/
def takeOperand (usage : Usage) (given : Given) (operand : String) : Except Interruption Given :=
  if given.operands.length ≥ usage.operandLimit then .error (.usage (.unexpected operand))
  else if usage.acceptsOperand operand then
    .ok { given with operands := given.operands ++ [operand] }
  else .error (.usage (.noValue operand))

/-- The argument is an option. -/
def isOption (argument : String) : Bool :=
  argument.toList.head? == some '-' && argument != "-"

/-- Reads one argument that is an option. -/
def readOption (usage : Usage) (given : Given) (argument : String) :
    Except Interruption Progress :=
  match Text.stripStem? "--" argument with
  | some text => usage.readName argument given text
  | none => usage.readLetters argument given (argument.toList.drop 1)

/-- Reads arguments from left to right. -/
def read (usage : Usage) : Progress → List String → Except Interruption Given
  | (given, none), [] => .ok given
  | (_, some form), [] => .error (.usage (.noValue form.text))
  | (given, pending), argument :: rest => do
    if isOption argument then
      if let some form := pending then throw (.usage (.noValue form.text))
      if argument = "--" then rest.foldlM usage.takeOperand given
      else usage.read (← usage.readOption given argument) rest
    else
      match pending with
      | some form => usage.read (← given.takeValue form argument, none) rest
      | none => usage.read (← usage.takeOperand given argument, none) rest

/-- Reads options up to the first operand, which is split off with what follows it. -/
def readUntilOperand (usage : Usage) : Given → List String →
    Except Interruption (Given × Option (String × List String))
  | given, [] => .ok (given, none)
  | given, argument :: rest => do
    if !isOption argument then return (given, some (argument, rest))
    if argument = "--" then
      match rest with
      | [] => return (given, none)
      | operand :: _ => throw (.usage (.unexpected operand))
    match ← usage.readOption given argument with
    | (given, none) => usage.readUntilOperand given rest
    | (_, some form) => throw (.usage (.noValue form.text))

end Usage

end Scaffold.CommandLine
