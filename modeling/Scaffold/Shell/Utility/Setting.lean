import Scaffold.Shell.Launcher

/-!
# Running a program in other settings

`env` sets and removes settings for a program, or shows those that are left. Its arguments may be
given in one text, which is cut into words as a shell would (`Errand.splitText`).
-/

set_option autoImplicit false

namespace Scaffold.Shell

open Text (Octets)

namespace Errand

/-! ### Texts of arguments -/

/-- Where the cutting of a text stands: the quote that is open, the word that is open, and the words
before it in reverse. -/
structure SplitReading where
  quote : Option Char
  word : Option Octets
  words : List Octets

namespace SplitReading

/-- Adds an octet to the open word. -/
def push (reading : SplitReading) (c : Char) : SplitReading :=
  { reading with word := some (c :: reading.word.getD []) }

/-- Ends the open word. -/
def close (reading : SplitReading) : SplitReading :=
  { reading with
    word := none
    words := (reading.word.map List.reverse).toList ++ reading.words }

/-- The words that were read. -/
def result (reading : SplitReading) : List Octets :=
  reading.close.words.reverse

end SplitReading

/-- The octets that letters stand for after a backslash. -/
def splitEscape? : Char → Option Char
  | 'f' => some '\x0c'
  | 'n' => some '\n'
  | 'r' => some '\r'
  | 't' => some '\t'
  | 'v' => some '\x0b'
  | c => if ['\x22', '#', '$', '\x27', '\\'].contains c then some c else none

/-- The name between braces at the front of a text, after a dollar sign. -/
def splitName? : Octets → Option Octets
  | '\x7b' :: text =>
    let name := text.takeWhile fun c ↦ c.isAlphanum || c == '_'
    let isName := !name.isEmpty && !name.head?.any Char.isDigit
    if isName && text[name.length]? = some '\x7d' then some name else none
  | _ => none

/-- Cuts a text into words; `left` bounds its length. -/
def splitFrom (settings : List (Octets × Octets)) :
    (left : Nat) → SplitReading → Octets → Except String (List Octets)
  | 0, reading, _ => .ok reading.result
  | _ + 1, reading, [] =>
    if reading.quote.isSome then .error "no terminating quote in -S string" else .ok reading.result
  | left + 1, reading, c :: rest =>
    let isSingle := reading.quote == some '\x27'
    if reading.quote = some c then splitFrom settings left { reading with quote := none } rest
    else if (c = '\x27' ∨ c = '\x22') ∧ reading.quote = none then
      let reading := { reading with
        quote := some c
        word := some (reading.word.getD []) }
      splitFrom settings left reading rest
    else if reading.quote = none ∧ (c.isWhitespace ∨ c = '\x0b' ∨ c = '\x0c') then
      splitFrom settings left reading.close rest
    else if c = '#' ∧ reading.quote = none ∧ reading.word = none then .ok reading.result
    else if c = '$' ∧ !isSingle then
      match splitName? rest with
      | none =>
        .error ("only $\x7bVARNAME\x7d expansion is supported, error at: " ++
          Octets.toText (c :: rest))
      | some name =>
        let value? := settings.lookup name
        let word := value?.map fun value ↦ value.reverse ++ reading.word.getD []
        splitFrom settings left { reading with word := word <|> reading.word }
          (rest.drop (name.length + 2))
    else if c = '\\' then
      match rest with
      | [] => .error "invalid backslash at end of string in -S"
      | next :: after =>
        if isSingle && next != '\\' && next != '\x27' then
          splitFrom settings left (reading.push c) rest
        else if next = '_' then
          let reading := if reading.quote.isSome then reading.push ' ' else reading.close
          splitFrom settings left reading after
        else if next = 'c' then
          if reading.quote.isSome then
            .error "'\\c' must not appear in double-quoted -S string"
          else .ok reading.result
        else
          match splitEscape? next with
          | some c => splitFrom settings left (reading.push c) after
          | none => .error ("invalid sequence '\\" ++ String.ofList [next] ++ "' in -S")
    else splitFrom settings left (reading.push c) rest

/-- The words of a text, where names in braces stand for settings. -/
def splitText (settings : List (Octets × Octets)) (text : Octets) : Except String (List Octets) :=
  splitFrom settings (text.length + 1) ⟨none, none, []⟩ text

/-! ### Settings -/

/-- Sets a setting. -/
def set (settings : List (Octets × Octets)) (name value : Octets) : List (Octets × Octets) :=
  if settings.any (·.1 == name) then
    settings.map fun entry ↦ if entry.1 == name then (name, value) else entry
  else settings ++ [(name, value)]

/-- The settings in front of a program, and the program with its arguments. -/
def assignments (words : List Octets) : List (Octets × Octets) × List Octets :=
  let found := words.takeWhile (·.contains '=')
  (found.map fun word ↦
    let name := word.takeWhile (· != '=')
    (name, word.drop (name.length + 1)), words.drop found.length)

/-- The form of the options of `env`. -/
def environmentForm : OptionForm where
  flags := ['i', '0', 'v', '\x01', '\x02', '\x03', '\x04']
  valued := ['u', 'S', 'C']
  long := [("ignore-environment", 'i'), ("unset", 'u'), ("split-string", 'S'), ("chdir", 'C'),
    ("null", '0'), ("debug", 'v'), ("block-signal", '\x01'), ("default-signal", '\x02'),
    ("ignore-signal", '\x03'), ("list-signal-handling", '\x04')]
  stopsEarly := true

/-- Arguments with the words of the texts among them in the place of these; at most so many
texts. -/
def spread (settings : List (Octets × Octets)) :
    (left : Nat) → List Octets → Except String (List Octets)
  | 0, words => .ok words
  | _ + 1, [] => .ok []
  | left + 1, word :: rest => do
    let split := fun (before : List Octets) (text : Octets) (rest : List Octets) ↦ do
      let words ← splitText settings text
      return before ++ (← spread settings left (words ++ rest))
    let keep := fun (count : Nat) ↦ do
      return word :: rest.take count ++ (← spread settings left (rest.drop count))
    match word with
    | ['-', '-'] => return word :: rest
    | '-' :: '-' :: text =>
      let name := text.takeWhile (· != '=')
      match (Options.long? environmentForm word name).toOption.map (·.2) with
      | some 'S' =>
        if text.contains '=' then split [] (text.drop (name.length + 1)) rest
        else split [] (rest.headD []) (rest.drop 1)
      | some letter =>
        keep (if environmentForm.valued.contains letter && !text.contains '=' then 1 else 0)
      | none => return word :: rest
    | '-' :: letter :: letters =>
      let letters := letter :: letters
      let flags := letters.takeWhile fun c ↦ !environmentForm.valued.contains c
      match letters.drop flags.length with
      | 'S' :: text =>
        let before := if flags.isEmpty then [] else ['-' :: flags]
        if text.isEmpty && !rest.isEmpty then split before (rest.headD []) (rest.drop 1)
        else if text.isEmpty then return [word]
        else split before text rest
      | [_] => keep 1
      | _ => keep 0
    | _ => return word :: rest

/-- How many texts of arguments may follow one another. -/
def spreadLimit : Nat := 100

/-! ### Signals -/

/-- The signals among the values of an option; all of them for an option without a value. -/
def signalsOf (options : Options) (letter : Char) : Except Octets (List Nat) := do
  let found ← (options.values letter).mapM fun text ↦
    if text.isEmpty then .ok []
    else (Text.pieces (· == ',') text).mapM fun name ↦
      match Signal.ofText? (if "SIG".toList.isPrefixOf name then name.drop 3 else name) with
      | some signal => .ok signal
      | none => .error name
  return found.flatten

/-- What is wrong with the signals that `env` is told about: a name, or a signal that cannot be
treated so. -/
def wrongSignal? (options : Options) : Option (Octets ⊕ Nat) :=
  let found := ['\x02', '\x03', '\x01'].map fun letter ↦ (letter, signalsOf options letter)
  let names := found.filterMap fun entry ↦
    match entry.2 with
    | .error name => some name
    | .ok _ => none
  let fixed := (found.filter (·.1 != '\x01')).filterMap fun entry ↦
    entry.2.toOption.bind fun signals ↦ signals.find? fun signal ↦ signal = 9 ∨ signal = 19
  names.head?.map .inl <|> fixed.head?.map .inr

/-! ### Steps -/

/-- What `env` tells of its steps. -/
def steps (options : Options) (clears : Bool) (assigned : List (Octets × Octets))
    (words : List Octets) : Octets :=
  let line := fun (title text : Octets) ↦ title ++ text ++ ['\n']
  let cleared :=
    if clears then line "cleaning environ".toList []
    else (options.values 'u').flatMap (line "unset:    ".toList)
  let set := assigned.flatMap fun (name, value) ↦ line "setenv:   ".toList (name ++ '=' :: value)
  let moved := ((options.value? 'C').map fun place ↦
    line "chdir:    ".toList (Quoting.plain place)).getD []
  let started := line "executing: ".toList (words.headD [])
  let listed := words.zipIdx.flatMap fun (word, index) ↦
    line ("   arg[".toList ++ Number.digits 10 index ++ "]= ".toList) (Quoting.plain word)
  cleared ++ set ++ moved ++ started ++ listed

/-- Runs a program in a place. -/
def inPlaceOf (task : Task) (order : Order) : Option Octets → Errand
  | none => only order
  | some place =>
    match task.tree.entryAt task.here (pathOf place) with
    | .ok .directory => only { order with place := some place }
    | outcome =>
      let reason :=
        match outcome with
        | .error error => error.reason
        | .ok _ => SystemError.notDirectory.reason
      ofEffect (task.complain 125 ("cannot change directory to ".toList ++
        Quoting.plain place ++ (": " ++ reason).toList))

/-- What `env` does. -/
def ofEnvironment (task : Task) : Errand :=
  match spread task.settings spreadLimit task.arguments with
  | .error text => ofEffect (task.complain 125 text.toList)
  | .ok arguments =>
    match Options.parse environmentForm arguments with
    | .error text => misused task 125 text
    | .ok options =>
      let (clears, words) :=
        match options.operands with
        | ['-'] :: rest => (true, rest)
        | words => (options.has 'i', words)
      let wrongName? := (options.values 'u').find? fun name ↦ name.isEmpty || name.contains '='
      match wrongName?, wrongSignal? options with
      | some wrong, _ =>
        ofEffect (task.complain 125 ("cannot unset ".toList ++ Quoting.plain wrong ++
          ": Invalid argument".toList))
      | none, some (.inl name) =>
        misused task 125 (Octets.toText (Quoting.plain name) ++ ": invalid signal")
      | none, some (.inr signal) =>
        ofEffect (task.complain 125 ("failed to set signal action for signal ".toList ++
          Number.digits 10 signal ++ ": Invalid argument".toList))
      | none, none =>
        let settings := if clears then [] else
          task.settings.filter fun entry ↦ !(options.values 'u').contains entry.1
        let (assigned, words) := assignments words
        let settings :=
          assigned.foldl (fun settings (name, value) ↦ set settings name value) settings
        if words.isEmpty then
          if options.has 'C' then misused task 125 "must specify command with --chdir (-C)"
          else
            let ending := if options.has '0' then '\x00' else '\n'
            write 1 (settings.flatMap fun (name, value) ↦ name ++ '=' :: value ++ [ending]) (done 0)
        else if options.has '0' then
          misused task 125 "cannot specify --null (-0) with command"
        else
          let told := if options.has 'v' then steps options clears assigned words else []
          write 2 told
            (inPlaceOf task { task.order "'" words with settings } (options.value? 'C'))

end Errand

end Scaffold.Shell
