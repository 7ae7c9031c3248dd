import Scaffold.Shell.Builtin.Basic

/-!
# Variables and arguments

The builtins that set, describe and read variables, and those that change the arguments of the
script and its options.
-/

set_option autoImplicit false

namespace Scaffold.Shell.Builtin

open Text (Octets)
open Run

/-- Lines that set variables, in ascending order, with `lead` in front of each. -/
def listing (lead : Octets) (bindings : List (Octets × Binding)) : Octets :=
  let sorted := bindings.mergeSort fun first second ↦ first.1.isAtMost second.1
  sorted.flatMap fun (name, binding) ↦
    let value := (binding.value.map fun value ↦ '=' :: quoted value).getD []
    lead ++ name ++ value ++ ['\n']

/-- Marks variables, some with a value, or lists those that are marked. -/
def marking (name : String) (isMarked : Binding → Bool) (mark : Binding → Binding) : Builtin :=
  special name fun arguments ↦ do
    let (letters, operands) ← options ['p'] arguments
    if letters.contains 'p' || operands.isEmpty then
      let marked := (← self).bindings.filter fun entry ↦ isMarked entry.2
      print (listing (name.toList ++ [' ']) marked)
    else
      for word in operands do
        let (name, value?) := assignment word
        requireName name
        if let some value := value? then assign name value
        change fun process ↦
          process.bind name (mark ((process.binding? name).getD ⟨none, false, false⟩))
      setStatus 0

/-- Tells programs about variables. -/
def «export» : Builtin :=
  marking "export" Binding.isExported fun binding ↦ { binding with isExported := true }

/-- Keeps variables from being changed. -/
def «readonly» : Builtin :=
  marking "readonly" Binding.isReadOnly fun binding ↦ { binding with isReadOnly := true }

/-- Makes variables of the function that is running. -/
def «local» : Builtin :=
  special "local" fun arguments ↦ do
    if (← self).level = 0 then fail "not in a function".toList
    for word in arguments do
      if word = ['-'] then
        change fun process ↦
          { process with savedOptions := some (process.savedOptions.getD process.options) }
      else
        let (name, value?) := assignment word
        requireName name
        change fun process ↦
          if process.saved.any (·.1 == name) then process
          else { process with saved := (name, process.binding? name) :: process.saved }
        if let some value := value? then assign name value
    setStatus 0

/-- Takes variables or functions away. -/
def unset : Builtin :=
  special "unset" fun arguments ↦ do
    let (letters, operands) ← options ['v', 'f'] arguments
    for name in operands do
      if letters.contains 'f' then
        change fun process ↦
          { process with functions := process.functions.filter (·.1 != name) }
      else
        requireName name
        if ((← self).binding? name).any (·.isReadOnly) then
          fail (name ++ ": is read only".toList)
        change (·.forget name)
    setStatus 0

/-- The options with their names and letters, in the order in which they are listed. -/
def optionNames : List (String × Char) :=
  [("errexit", 'e'), ("noglob", 'f'), ("ignoreeof", 'I'), ("interactive", 'i'), ("monitor", 'm'),
    ("noexec", 'n'), ("stdin", 's'), ("xtrace", 'x'), ("verbose", 'v'), ("vi", 'V'),
    ("emacs", 'E'), ("noclobber", 'C'), ("allexport", 'a'), ("notify", 'b'), ("nounset", 'u'),
    ("privileged", 'p'), ("nolog", 'L'), ("debug", 'D')]

/-- The letters of options that a word may give. -/
def optionLetters : List Char :=
  ['e', 'f', 'I', 'i', 'm', 'n', 's', 'x', 'v', 'V', 'E', 'C', 'a', 'b', 'u']

/-- The process with an option on or off. -/
def switch (isOn : Bool) (letter : Char) (process : Process) : Process :=
  let others := process.options.filter (· != letter)
  { process with options := if isOn then letter :: others else others }

/-- Shows which options are on, as a table or as commands. -/
def showOptions (isTable : Bool) : Run Unit := do
  let process ← self
  let lines := optionNames.map fun (name, letter) ↦
    if isTable then Text.padded 16 name ++ if process.has letter then "on" else "off"
    else (if process.has letter then "set -o " else "set +o ") ++ name
  let head := if isTable then "Current option settings\n" else ""
  print (head ++ String.join (lines.map (· ++ "\n"))).toList

/-- Sets the option with a name, or shows all options where there is none. -/
def nameOption (isOn : Bool) : List Octets → Run Unit
  | [] => showOptions isOn
  | name :: _ =>
    match optionNames.find? fun entry ↦ entry.1.toList == name with
    | some (_, letter) => change (switch isOn letter)
    | none => fail ("Illegal option -o ".toList ++ name)

/-- Sets the options of a word of letters, where a letter takes the next word for a name, and gives
the words that are left. -/
def takeLetters (isOn : Bool) : Octets → List Octets → Run (List Octets)
  | [], words => return words
  | 'o' :: letters, words => do
    nameOption isOn words
    takeLetters isOn letters (words.drop 1)
  | letter :: letters, words => do
    if !optionLetters.contains letter then fail ("Illegal option -".toList ++ [letter])
    change (switch isOn letter)
    takeLetters isOn letters words

/-- Sets the options in front of the operands, and gives the operands if there are any or `--`
is. -/
def takeOptions : (left : Nat) → List Octets → Run (Option (List Octets))
  | 0, _ => return none
  | _, [] => return none
  | _, ['-', '-'] :: operands => return some operands
  | _, ['-'] :: operands => do
    change (switch false 'x' ∘ switch false 'v')
    return if operands.isEmpty then none else some operands
  | left + 1, (sign :: letters) :: rest => do
    if sign = '-' ∨ sign = '+' then
      takeOptions left (← takeLetters (sign == '-') letters rest)
    else return some ((sign :: letters) :: rest)
  | _, operands => return some operands

/-- The process with other arguments. -/
def withArguments (arguments : List Octets) (process : Process) : Process :=
  { process with arguments, optionIndex := 1, optionOffset := none }

/-- Sets options and arguments, or lists the variables. -/
def set : Builtin :=
  special "set" fun arguments ↦ do
    if arguments.isEmpty then
      print (listing [] ((← self).bindings.filter fun entry ↦ entry.2.value.isSome))
    else
      setStatus 0
      if let some operands ← takeOptions (arguments.length + 1) arguments then
        change (withArguments operands)

/-- Drops arguments. -/
def shift : Builtin :=
  special "shift" fun operands ↦ do
    let count ← (operands.head?.map number).getD (pure 1)
    let arguments := (← self).arguments
    if count > arguments.length then fail "can't shift that many".toList
    change (withArguments (arguments.drop count))
    setStatus 0

/-- The octets of a line that is read, and whether each was escaped; and how many octets were read,
with whether the line ended. -/
def readLine (isRaw : Bool) : (count : Nat) → (line : List (Char × Bool)) → Octets →
    List (Char × Bool) × Nat × Bool
  | count, line, [] => (line.reverse, count, false)
  | count, line, '\n' :: _ => (line.reverse, count + 1, true)
  | count, line, '\\' :: c :: rest =>
    if isRaw then readLine isRaw (count + 1) (('\\', false) :: line) (c :: rest)
    else if c = '\n' then readLine isRaw (count + 2) line rest
    else readLine isRaw (count + 2) ((c, true) :: line) rest
  | count, line, c :: rest =>
    let line := if c = '\x00' ∨ (c = '\\' ∧ !isRaw) then line else (c, false) :: line
    readLine isRaw (count + 1) line rest

/-- Gives the fields of a line to names, the last of which gets all that is left, but not the
separator after a single field. -/
def giveFields (separators : Octets) : List Octets → List (Char × Bool) → List (Octets × Octets)
  | [], _ => []
  | name :: names, line =>
    let separates := fun (entry : Char × Bool) ↦ !entry.2 && separators.contains entry.1
    let isBlank := fun (entry : Char × Bool) ↦
      separates entry && [' ', '\t', '\n'].contains entry.1
    let line := line.dropWhile isBlank
    let field := line.takeWhile fun entry ↦ !separates entry
    let after := line.drop field.length
    let text := fun (entries : List (Char × Bool)) ↦ entries.map (·.1)
    if names.isEmpty then
      let isSingle := after.all separates && after.countP (fun entry ↦ !isBlank entry) ≤ 1
      [(name, text (if isSingle then field else (line.reverse.dropWhile isBlank).reverse))]
    else
      let after := after.dropWhile isBlank
      let after :=
        if after.head?.any fun entry ↦ separates entry then after.drop 1 else after
      (name, text field) :: giveFields separators names after

/-- Reads a line and gives its fields to variables. -/
def read : Builtin :=
  plain "read" fun arguments ↦ do
    let (found, names) ← optionsWith ['r'] ['p'] arguments
    if names.isEmpty then fail "arg count".toList
    let isRaw := found.any (·.1 == 'r')
    let text ← unread 0 deviceRoom
    let (line, count, isEnded) := readLine isRaw 0 [] text
    if count > 0 then leaveUnread 0 count (text.drop count)
    let separators := ((← self).value? "IFS".toList).getD [' ', '\t', '\n']
    for (name, value) in giveFields separators names line do
      requireName name
      assign name value
    setStatus (if isEnded then 0 else 1)

/-- What comes of looking for an option: the argument and the place in it where to read on, the
option, its value if one is to be set or taken away, and a message. -/
structure Picked where
  index : Nat
  offset : Option Nat
  option : Octets
  value : Option (Option Octets)
  message : Octets
  isOption : Bool
  deriving Repr

/-- Looks for the next option among arguments. -/
def pick (form : Octets) (arguments : List Octets) (index : Nat) (offset : Option Nat) :
    Picked :=
  let isQuiet := form.head? == some ':'
  let finish := fun (index : Nat) ↦ (⟨index, none, ['?'], none, [], false⟩ : Picked)
  let go := fun (index : Nat) (word : Octets) (start : Nat) ↦
    match word.drop start with
    | [] => finish index
    | letter :: rest =>
      let offset := some (start + 1)
      match form.drop ((form.findIdx? fun c ↦ c == letter && c != ':').getD form.length) with
      | [] =>
        (⟨index, offset, ['?'], some (if isQuiet then some [letter] else none),
          if isQuiet then [] else "Illegal option -".toList ++ [letter, '\n'], true⟩ : Picked)
      | _ :: ':' :: _ =>
        if !rest.isEmpty then ⟨index, none, [letter], some (some rest), [], true⟩
        else
          match arguments[index - 1]? with
          | some value => ⟨index + 1, none, [letter], some (some value), [], true⟩
          | none =>
            if isQuiet then ⟨index, offset, [':'], some (some [letter]), [], true⟩
            else
              ⟨index, offset, ['?'], some none,
                "No arg for -".toList ++ [letter] ++ " option\n".toList, true⟩
      | _ => ⟨index, offset, [letter], some (some []), [], true⟩
  let inside :=
    match offset with
    | some offset =>
      match arguments[index - 2]? with
      | some word => if index ≥ 2 ∧ offset < word.length then some (word, offset) else none
      | none => none
    | none => none
  match inside with
  | some (word, offset) => go index word offset
  | none =>
    match arguments[index - 1]? with
    | some ['-', '-'] => finish (index + 1)
    | some ('-' :: letter :: rest) => go (index + 1) ('-' :: letter :: rest) 1
    | _ => finish index

/-- Reads the next option of the script. -/
def getopts : Builtin :=
  plain "getopts" fun arguments ↦ do
    match arguments with
    | form :: name :: operands =>
      let process ← self
      let words := if operands.isEmpty then process.arguments else operands
      let picked := pick form words process.optionIndex process.optionOffset
      let _ ← write 2 picked.message
      match picked.value with
      | some (some value) => assign "OPTARG".toList value
      | some none => change (·.forget "OPTARG".toList)
      | none => pure ()
      assign "OPTIND".toList (Number.digits 10 picked.index)
      change fun process ↦
        { process with optionIndex := picked.index, optionOffset := picked.offset }
      requireName name
      assign name picked.option
      setStatus (if picked.isOption then 0 else 1)
    | _ => fail "Usage: getopts optstring var [arg...]".toList

/-- The builtins for variables and arguments. -/
def ofVariables : List Builtin :=
  [«export», «readonly», «local», unset, set, shift, read, getopts]

end Scaffold.Shell.Builtin
