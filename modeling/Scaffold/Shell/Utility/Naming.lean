import Scaffold.Shell.Printing
import Scaffold.Shell.Search.Dialect
import Scaffold.Shell.Utility.Filing

/-!
# Names and numbers

Utilities that take paths apart, calculate, answer with a status, and print their arguments.
-/

set_option autoImplicit false

namespace Scaffold.Shell.Utility

open Text (Octets)

/-! ### Paths -/

/-- The last name of a path without an ending, unless it is nothing else. -/
def baseName (path ending : Octets) : Octets :=
  let name := if withoutSlashes path = ['/'] then ['/'] else lastName path
  if !ending.isEmpty && ending.isSuffixOf name && ending.length < name.length then
    name.take (name.length - ending.length)
  else name

/-- The octet that ends what is shown. -/
def endingOf (options : Options) : Char :=
  if options.has 'z' then '\x00' else '\n'

/-- Texts with an octet after each. -/
def endedWith (ending : Char) (texts : List Octets) : Octets :=
  texts.flatMap (· ++ [ending])

/-- Shows the last names of paths. -/
def basename : Utility :=
  ofOptions "basename" ⟨['a', 'z'], ['s'], [("multiple", 'a'), ("suffix", 's')], true⟩ 1
    fun task options ↦
      match options.operands with
      | [] => task.misuse 1 "missing operand"
      | first :: others =>
        if options.has 'a' || options.has 's' then
          let ending := (options.value? 's').getD []
          task.finish 0 (endedWith (endingOf options) (options.operands.map fun path ↦
            baseName path ending))
        else if others.length > 1 then
          task.misuse 1 ("extra operand " ++ Octets.toText (Quoting.plain (others.getD 1 [])))
        else
          task.finish 0 (endedWith (endingOf options) [baseName first (others.headD [])])

/-- The path of the directory that a path is in. -/
def directoryName (path : Octets) : Octets :=
  let bare := withoutSlashes path
  let before := (bare.reverse.dropWhile (· != '/')).reverse
  if bare = ['/'] then ['/']
  else if before.isEmpty then ['.']
  else withoutSlashes before

/-- Shows the directories that paths are in. -/
def dirname : Utility :=
  ofOptions "dirname" ⟨['z'], [], [("zero", 'z')], true⟩ 1 fun task options ↦
    if options.operands.isEmpty then task.misuse 1 "missing operand"
    else task.finish 0 (endedWith (endingOf options) (options.operands.map directoryName))

/-- Shows the directory. -/
def pwd : Utility :=
  ofOptions "pwd" ⟨['L', 'P'], [], [("logical", 'L'), ("physical", 'P')], false⟩ 1
    fun task options ↦
      let told := (task.settings.lookup "PWD".toList).getD []
      let isTrue := (task.tree.locate task.here (pathOf told) true).toOption == some task.here
      let isAsked := (options.found.getLast?.map (·.1)) == some 'L'
      let isLogical := isAsked && told.head? == some '/' && isTrue
      let shown := (if isLogical then told else locationText task.here) ++ ['\n']
      let warning := task.message "ignoring non-option arguments".toList
      task.finishAll 0 ((if options.operands.isEmpty then [] else [(2, warning)]) ++ [(1, shown)])
        false

/-- Shows where programs are. -/
def which : Utility where
  name := "which"
  run task :=
    let isOption := fun (word : Octets) ↦ word.head? == some '-' && word.length > 1
    let options := task.arguments.takeWhile isOption
    let letters := (options.takeWhile (· != ['-', '-'])).flatMap (·.drop 1)
    let isAll := letters.contains 'a'
    let isSilent := letters.contains 's'
    let names := task.arguments.drop options.length
    let isProgram := fun (path : Octets) ↦
      match task.tree.entryAt task.here (pathOf path) with
      | .ok (.file _ isExecutable) => isExecutable
      | _ => false
    let directories := Text.pieces (· == ':') ((task.settings.lookup "PATH".toList).getD [])
    let found := names.map fun name ↦
      let paths := if name.contains '/' then [name] else directories.map (below · name)
      let there := paths.filter isProgram
      if isAll then there else there.take 1
    match letters.find? fun c ↦ c != 'a' && c != 's' with
    | some wrong =>
      task.finishAll 2 [(2, "Illegal option -".toList ++ wrong ::
        "\nUsage: /usr/bin/which [-as] args\n".toList)] false
    | none =>
      task.finish (if found.all (!·.isEmpty) && !names.isEmpty then 0 else 1)
        (if isSilent then [] else ended found.flatten)

/-! ### Printing -/

/-- Prints its arguments, and reads escapes only when it is told to. -/
def echo : Utility where
  name := "echo"
  run task :=
    let isOption := fun (word : Octets) ↦
      word.length > 1 && word.head? == some '-' &&
        (word.drop 1).all fun c ↦ c == 'n' || c == 'e' || c == 'E'
    let options := (task.arguments.takeWhile isOption).flatMap (·.drop 1)
    let words := task.arguments.dropWhile isOption
    let escapes := (options.filter (· != 'n')).getLast? == some 'e'
    let endsLine := !options.contains 'n'
    let text := (words.intersperse [' ']).flatten
    let plain := text ++ if endsLine then ['\n'] else []
    task.finish 0 (if escapes then Printing.echoParts .more endsLine words else plain)

/-- Prints its arguments in a form. -/
def printf : Utility where
  name := "printf"
  run task :=
    match task.arguments with
    | [] | [['-', '-']] => task.misuse 1 "missing operand"
    | [['-', '-', 'v', 'e', 'r', 's', 'i', 'o', 'n']] =>
      task.finish 0 "printf (GNU coreutils) 9.1\n".toList
    | words =>
    let words := if words.head? = some ['-', '-'] then words.drop 1 else words
    let filled := Printing.fill true (words.headD []) (words.drop 1)
    let (written, last) := filled.complaints.foldl
      (fun (state : List (Nat × Octets) × Nat) (count, complaint) ↦
        let before := (filled.output.drop state.2).take (count - state.2)
        (state.1 ++ [(1, before), (2, task.message complaint)], count)) ([], 0)
    task.finishAll (min filled.status 1) (written ++ [(1, filled.output.drop last)]) false

/-- Ends with a status. -/
def constant (name : String) (status : Nat) : Utility where
  name := name
  run task := task.finish status []

/-! ### Expressions -/

/-- A value of an expression is neither empty nor zero. -/
def isFull (value : Octets) : Bool :=
  let (_, digits) := Number.sign value
  !value.isEmpty && !(digits.all (· == '0') && !digits.isEmpty && value.head? != some '+')

/-- The number that a value is. -/
def integer (value : Octets) : Except String Int :=
  let digits := if value.head? = some '-' then value.drop 1 else value
  if digits.isEmpty || !digits.all Char.isDigit then .error "non-integer argument"
  else
    let size : Int := Text.digitsValue 10 digits
    .ok (if value.head? = some '-' then -size else size)

/-- The form of the expressions that the start of a text is compared with. -/
def startDialect : Dialect :=
  { Dialect.looseBasic with isLinewise := true }

/-- The part of a text that an expression stands for at its start, or that of its first group. -/
def matched (text pattern : Octets) : Except String Octets := do
  let sought ← (startDialect.sought false pattern).mapError SearchFault.message
  let hasGroup := (List.range pattern.length).any fun index ↦
    (pattern.drop index).take 2 == ['\\', '(']
  match sought.matchAt (Place.start text) with
  | none => return if hasGroup then [] else ['0']
  | some found =>
    return if hasGroup then (found.groups.lookup 1).getD []
      else Number.digits 10 found.finish.index

/-- What is wrong with an expression. -/
inductive SumFault
  /-- The words end where a value is expected. -/
  | missing
  /-- The words end where a bracket is expected. -/
  | unclosed
  | text (message : String)
  deriving DecidableEq, Repr

/-- The message about an expression whose last word is given. -/
def SumFault.message (last : Octets) : SumFault → Octets
  | missing => "syntax error: missing argument after ".toList ++ Quoting.plain last
  | unclosed => "syntax error: expecting ')' after ".toList ++ Quoting.plain last
  | text message => message.toList

/-- The words of an expression that are left. -/
abbrev Sum := StateT (List Octets) (Except SumFault)

/-- A value, or what is wrong with it. -/
def Sum.of {α : Type} (value : Except String α) : Sum α :=
  match value with
  | .ok value => return value
  | .error message => throw (.text message)

/-- The operators between two values, with their levels. -/
def operators : List (String × Nat) :=
  [("|", 0), ("&", 1), ("<", 2), ("<=", 2), ("=", 2), ("==", 2), ("!=", 2), (">=", 2), (">", 2),
    ("+", 3), ("-", 3), ("*", 4), ("/", 4), ("%", 4), (":", 5)]

/-- What an operator makes of two values. -/
def combine (operator : String) (first second : Octets) : Except String Octets := do
  let truth := fun (holds : Bool) ↦ if holds then ['1'] else ['0']
  let compared : Ordering :=
    match integer first, integer second with
    | .ok one, .ok two => compare one two
    | _, _ => compare first second
  let numbers := fun (calculate : Int → Int → Int) ↦ do
    return Number.text (calculate (← integer first) (← integer second))
  match operator with
  | "|" => return if isFull first then first else if isFull second then second else ['0']
  | "&" => return if isFull first && isFull second then first else ['0']
  | "<" => return truth (compared == .lt)
  | "<=" => return truth (compared != .gt)
  | "=" | "==" => return truth (compared == .eq)
  | "!=" => return truth (compared != .eq)
  | ">=" => return truth (compared != .lt)
  | ">" => return truth (compared == .gt)
  | "+" => numbers (· + ·)
  | "-" => numbers (· - ·)
  | "*" => numbers (· * ·)
  | ":" => matched first second
  | _ =>
    let _ ← integer first
    if (← integer second) = 0 then throw "division by zero"
    else numbers (if operator = "/" then Int.tdiv else Int.tmod)

/-- What a function makes of its arguments. -/
def applied (name : String) (arguments : List Octets) : Except String Octets :=
  match name, arguments with
  | "length", [text] => .ok (Number.digits 10 text.length)
  | "match", [text, pattern] => matched text pattern
  | "index", [text, octets] =>
    .ok (Number.digits 10 (((text.findIdx? octets.contains).map (· + 1)).getD 0))
  | "substr", [text, start, count] =>
    match integer start, integer count with
    | .ok start, .ok count =>
      .ok (if start ≤ 0 ∨ count ≤ 0 then [] else (text.drop (start.toNat - 1)).take count.toNat)
    | _, _ => .ok []
  | _, arguments => .ok (arguments.headD [])

/-- The functions, with the number of their arguments. -/
def functions : List (String × Nat) :=
  [("length", 1), ("match", 2), ("index", 2), ("substr", 3)]

mutual

/-- Reads a value at a level of operators; it is calculated only if `counts`. -/
def level : Nat → (counts : Bool) → (rank : Nat) → Sum Octets
  | 0, _, _ => throw (.text "syntax error")
  | left + 1, counts, rank =>
    if rank > 5 then operand left counts
    else do
      let first ← level left counts (rank + 1)
      chain left counts rank first

/-- Reads the operators of a level after a value. -/
def chain : Nat → (counts : Bool) → (rank : Nat) → Octets → Sum Octets
  | 0, _, _, _ => throw (.text "syntax error")
  | left + 1, counts, rank, first => do
    match ← get with
    | word :: rest =>
      let operator := Octets.toText word
      if operators.lookup operator = some rank then
        set rest
        let isDecided :=
          if operator = "|" then isFull first else operator = "&" && !isFull first
        let second ← level left (counts && !isDecided) (rank + 1)
        if counts then chain left counts rank (← Sum.of (combine operator first second))
        else chain left counts rank first
      else return first
    | [] => return first

/-- Reads one value. -/
def operand : Nat → (counts : Bool) → Sum Octets
  | 0, _ => throw (.text "syntax error")
  | left + 1, counts => do
    match ← get with
    | [] => throw .missing
    | word :: rest =>
      set rest
      let name := Octets.toText word
      match name with
      | "(" =>
        let value ← level left counts 0
        match ← get with
        | [] => throw .unclosed
        | other :: rest =>
          if other = [')'] then
            set rest
            return value
          else
            throw (.text
              ("syntax error: expecting ')' instead of " ++ Octets.toText (Quoting.plain other)))
      | ")" => throw (.text "syntax error: unexpected ')'")
      | "+" =>
        match rest with
        | [] => throw .missing
        | word :: rest =>
          set rest
          return word
      | name =>
        match functions.lookup name with
        | none => return word
        | some count =>
          let arguments ← argumentsOf left counts count
          Sum.of (applied name arguments)

/-- Reads so many values for a function. -/
def argumentsOf : Nat → (counts : Bool) → (count : Nat) → Sum (List Octets)
  | 0, _, _ => throw (.text "syntax error")
  | _ + 1, _, 0 => return []
  | left + 1, counts, count + 1 => do
    let first ← level left counts 6
    return first :: (← argumentsOf left counts count)

end

/-- Calculates. -/
def expr : Utility where
  name := "expr"
  run task :=
    let words :=
      if task.arguments.head? = some ['-', '-'] then task.arguments.drop 1 else task.arguments
    if words.isEmpty then task.misuse 2 "missing operand"
    else
      match (level (32 * (words.length + 2)) true 0).run words with
      | .error fault => task.complain 2 (fault.message (words.getLast?.getD []))
      | .ok (value, []) => task.finish (if isFull value then 0 else 1) (value ++ ['\n'])
      | .ok (_, word :: _) =>
        task.complain 2 ("syntax error: unexpected argument ".toList ++ Quoting.plain word)

/-- The utilities for names, numbers and conditions. -/
def ofNaming : List Utility :=
  [basename, dirname, pwd, which, echo, printf, constant "true" 0, constant "false" 1, expr]

end Scaffold.Shell.Utility
