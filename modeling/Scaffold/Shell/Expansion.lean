import Scaffold.Shell.Arithmetic
import Scaffold.Shell.Field
import Scaffold.Shell.Reader
import Scaffold.Shell.State

/-!
# Expanding words

Parameters, outputs of commands and numbers are put in their places in a word. `expandFields` gives
the fields that words stand for, `expandText` the text of a word that is not split, and
`expandPattern` a pattern. Commands in words are run by a function that is given, `runs`.
-/

set_option autoImplicit false

namespace Scaffold.Shell.Run

open Text (Octets)

/-- What stands between arguments that are put together. -/
def joint (process : Process) : Octets :=
  match process.value? "IFS".toList with
  | some separators => separators.take 1
  | none => [' ']

/-- The separators at which values are split. -/
def separators (process : Process) : Octets :=
  (process.value? "IFS".toList).getD [' ', '\t', '\n']

/-- The texts that a parameter stands for: the arguments, or one; none if it is not set. -/
def texts? (process : Process) (name : Octets) : Option (List Octets) :=
  if name = ['@'] ∨ name = ['*'] then some process.arguments
  else (process.parameter? name).map fun text ↦ [text]

/-- The texts of a parameter are empty together: what stands between arguments counts. -/
def isBlank (process : Process) (name : Octets) (isQuoted : Bool) (texts : List Octets) : Bool :=
  texts.all (·.isEmpty) &&
    (texts.length ≤ 1 || (name == ['*'] && isQuoted && (joint process).isEmpty))

/-- The pieces for the texts of a parameter. -/
def pieces (process : Process) (name : Octets) (isQuoted : Bool) (texts : List Octets) :
    List Piece :=
  if name = ['@'] ∧ isQuoted then
    let last := if texts.getLast? = some [] then [Piece.faint] else []
    let shown := if last.isEmpty then texts else texts.dropLast
    let pieces := (shown.map Piece.quoted) ++ if last.isEmpty then [] else [last]
    (pieces.intersperse [.split true]).flatten
  else if name = ['*'] ∧ isQuoted then
    Piece.quoted (texts.intersperse (joint process)).flatten
  else if name = ['@'] ∨ name = ['*'] then
    ((texts.map Piece.ofValue).intersperse [.split false]).flatten
  else if texts.isEmpty ∧ !isQuoted then []
  else Piece.value isQuoted texts.flatten

/-- The number that a variable holds for an expression. -/
def numberOf (process : Process) (name : Octets) : Except String Int64 :=
  match process.parameter? name with
  | none => .ok 0
  | some text =>
    if (Number.dropBlanks text).isEmpty then .ok 0
    else
      match Number.leading? text with
      | some (value, rest) =>
        if (Number.dropBlanks rest).isEmpty && Number.isSmall value then .ok (Int64.ofInt value)
        else .error ("Illegal number: " ++ String.ofList text)
      | none => .error ("Illegal number: " ++ String.ofList text)

/-- The value of an expression; the numbers that it gives to variables are set. -/
def calculate (expression : Octets) : Run Int64 := do
  match Arithmetic.evaluate (numberOf (← self)) expression with
  | .ok (value, given) =>
    for (name, number) in given do
      assign name (Number.text number.toInt)
    return value
  | .error message =>
    if message.startsWith "Illegal number" then fail message.toList
    else
      fail ("arithmetic expression: ".toList ++ message.toList ++ [':', ' ', '\x22'] ++
        expression ++ ['\x22'])

/-- Removes a pattern from an end of a value. -/
def removed (edge : Edge) (isLongest : Bool) (pattern : List Mark) (value : Octets) : Octets :=
  match edge with
  | .start => Pattern.removeStart pattern isLongest value
  | .finish => Pattern.removeEnd pattern isLongest value

/-- The first of several texts that a pattern takes something off, with those before and after
it. -/
def firstRemoved (edge : Edge) (isLongest : Bool) (pattern : List Mark) :
    List Octets → Option (List Octets × Octets × List Octets)
  | [] => none
  | text :: rest =>
    let left := removed edge isLongest pattern text
    if left.length < text.length then some ([], left, rest)
    else
      (firstRemoved edge isLongest pattern rest).map fun (before, left, after) ↦
        (text :: before, left, after)

/-- Removes a pattern from an end of several arguments, which count as one text. The pattern never
goes over the border of two arguments, but what lies beyond it goes with it: a pattern at the end is
looked for from the last argument on and takes all arguments after it away, and the longest one from
the first argument alone. At the start only the first argument is looked at, and the longest pattern
that stands for all of it takes everything away. -/
def removedFromAll (edge : Edge) (isLongest : Bool) (pattern : List Mark)
    (texts : List Octets) : List Octets :=
  match edge, isLongest with
  | .start, isLongest =>
    match texts with
    | [] => []
    | first :: others =>
      if isLongest && !others.isEmpty && Pattern.matchesText pattern first then [[]]
      else removed .start isLongest pattern first :: others
  | .finish, true =>
    match texts with
    | [] => []
    | first :: others =>
      let left := removed .finish true pattern first
      if left.length < first.length || Pattern.matchesText pattern [] then [left]
      else first :: others
  | .finish, false =>
    match firstRemoved .finish false pattern texts.reverse with
    | some (_, left, before) => (left :: before).reverse
    | none => texts

/-- Stops with a message about a parameter. -/
def refuse {α : Type} (message : Octets) : Run α :=
  fail message

/-- The texts of a parameter where it has to be set. -/
def textsSet (name : Octets) : Run (List Octets) := do
  let process ← self
  match texts? process name with
  | some texts => return texts
  | none =>
    if process.has 'u' then refuse (name ++ Octets.ofText ": parameter not set")
    else return []

/-- The home directory of a user, or of the one who runs the script. -/
def homeOf (process : Process) (user : Octets) : Octets :=
  if user.isEmpty then (process.value? "HOME".toList).getD ['~']
  else if user = "root".toList then "/root".toList
  else '~' :: user

/-- A text without the line ends at its end. -/
def dropLineEnds (text : Octets) : Octets :=
  (text.reverse.dropWhile (· == '\n')).reverse

/-- Expands a part of a word, at most so deep; `runs` gives what commands print. -/
def expandPart (runs : List Command → Run Octets) : Nat → Part → Run (List Piece)
  | 0, _ => throw .timedOut
  | depth + 1, part => do
    let expand := fun (word : Word) ↦ do
      return (← word.mapM (expandPart runs depth)).flatten
    let asText := fun (word : Word) ↦ do
      let pieces ← expand word
      return Piece.text (joint (← self)) pieces
    match part with
    | .text octets true => return Piece.quoted octets
    | .text octets false => return Piece.ofOctets false octets
    | .home user => return Piece.ofOctets true (homeOf (← self) user)
    | .number expression isQuoted =>
      let value ← calculate (← asText expression)
      return Piece.value isQuoted (Number.text value.toInt)
    | .output script isQuoted =>
      return Piece.value isQuoted (dropLineEnds (← runs script))
    | .parameter name change isQuoted =>
      match change with
      | .unknown => refuse (Octets.ofText "Bad substitution")
      | .keep =>
        let texts ← textsSet name
        return pieces (← self) name isQuoted texts
      | .length =>
        let texts ← textsSet name
        let text := (texts.intersperse (joint (← self))).flatten
        return Piece.value isQuoted (Number.digits 10 text.length)
      | .remove edge isLongest pattern =>
        let texts ← textsSet name
        let process ← self
        if (texts? process name).isNone then return pieces process name isQuoted texts
        let pattern := Piece.marks (joint process) (← expand pattern)
        let process ← self
        let texts :=
          if name = ['*'] ∧ isQuoted then [(texts.intersperse (joint process)).flatten] else texts
        let remove :=
          if texts.length > 1 then removedFromAll edge isLongest pattern
          else List.map (removed edge isLongest pattern)
        return pieces process name isQuoted (remove texts)
      | .fallback kind countsEmpty word =>
        let process ← self
        let texts? := texts? process name
        let isSet :=
          match texts? with
          | some texts => !(countsEmpty && isBlank process name isQuoted texts)
          | none => false
        let inPlace := fun (pieces : List Piece) ↦
          if isQuoted then .present :: pieces else Piece.asValue pieces
        match kind, isSet with
        | .use, false => return inPlace (← expand word)
        | .assign, false =>
          let text ← asText word
          if Reader.isName name then
            assign name text
            return Piece.value isQuoted text
          else refuse (name ++ Octets.ofText ": bad variable name")
        | .alternative, true => return inPlace (← expand word)
        | .alternative, false => return Piece.value isQuoted []
        | .complain, false =>
          let text ← asText word
          let standard :=
            if countsEmpty then "parameter not set or null" else "parameter not set"
          refuse (name ++ [':', ' '] ++ if word.isEmpty then standard.toList else text)
        | _, true => return pieces process name isQuoted (texts?.getD [])

/-- How deep words may be nested. -/
def wordDepth : Nat := 200

/-- Expands a word to pieces. -/
def expandWord (runs : List Command → Run Octets) (word : Word) : Run (List Piece) := do
  return (← word.mapM (expandPart runs wordDepth)).flatten

/-- Expands a part of a word that is not split to its text. -/
def expandPartText (runs : List Command → Run Octets) : Part → Run Octets
  | .text octets _ => return octets
  | .home user => return homeOf (← self) user
  | .output script _ => return dropLineEnds (← runs script)
  | .parameter name .keep _ => do
    let texts ← textsSet name
    match texts with
    | [text] => return text
    | texts => return (texts.intersperse (joint (← self))).flatten
  | .parameter name (.remove edge isLongest pattern) _ => do
    let texts ← textsSet name
    if (texts? (← self) name).isNone then return []
    let pieces ← pattern.mapM (expandPart runs wordDepth)
    let process ← self
    let pattern := Piece.marks (joint process) pieces.flatten
    return removed edge isLongest pattern (texts.intersperse (joint process)).flatten
  | part => do
    let pieces ← expandPart runs wordDepth part
    return Piece.text (joint (← self)) pieces

/-- Expands a word that is not split to its text. -/
def expandText (runs : List Command → Run Octets) : Word → Run Octets
  | [] => return []
  | [part] => expandPartText runs part
  | part :: rest => do
    let text ← expandPartText runs part
    return text ++ (← expandText runs rest)

/-- The part is quoted and stands for one text. -/
def isSolid : Part → Bool
  | .text _ isQuoted | .output _ isQuoted | .number _ isQuoted => isQuoted
  | .parameter name change isQuoted =>
    isQuoted && name != ['@'] &&
      match change with
      | .keep | .length | .remove _ _ _ => true
      | _ => false
  | .home _ => false

/-- Expands a word to a pattern. -/
def expandPattern (runs : List Command → Run Octets) (word : Word) : Run (List Mark) := do
  let pieces ← expandWord runs word
  return Piece.marks (joint (← self)) pieces

/-- A word of the form `NAME=…`, with the homes that tildes in the value stand for. -/
def assignment? : Word → Option Word
  | .text octets false :: others =>
    let name := octets.takeWhile (· != '=')
    if octets.contains '=' && Reader.isName name then
      let value := octets.drop (name.length + 1)
      some (.text (name ++ ['=']) true ::
        Reader.withHomes true true (.text value false :: others))
    else none
  | _ => none

/-- The commands whose words of the form `NAME=…` are not split. -/
def declarations : List String :=
  ["export", "readonly", "local", "alias"]

/-- Expands a word to fields, which may be several. -/
def expandSeveral (runs : List Command → Run Octets) (word : Word) : Run (List Octets) := do
  let pieces ← expandWord runs word
  let state ← get
  let fields := Piece.fields (separators state.process) pieces
  if state.process.has 'f' then return fields.map (·.map Mark.octet)
  return fields.flatMap (filesOf state.world.tree state.process.here)

/-- Expands a word to fields. -/
def expandField (runs : List Command → Run Octets) (word : Word) : Run (List Octets) := do
  match word with
  | [.text octets false] =>
    if octets.any fun c ↦ c == '*' || c == '?' || c == '[' then
      expandSeveral runs word
    else return [octets]
  | word =>
    if word.all isSolid then return [← expandText runs word]
    else expandSeveral runs word

/-- Expands the words after the name of a command, which may declare variables. -/
def expandArguments (runs : List Command → Run Octets) (declares : Bool) (words : List Word) :
    Run (List Octets) := do
  let fields ← words.mapM fun word ↦
    match if declares then assignment? word else none with
    | some word => do return [← expandText runs word]
    | none => expandField runs word
  return fields.flatten

/-- Expands words to fields. -/
def expandFields (runs : List Command → Run Octets) : List Word → Run (List Octets)
  | [] => return []
  | first :: rest => do
    let name ← expandField runs first
    match name with
    | [] => expandFields runs rest
    | [['c', 'o', 'm', 'm', 'a', 'n', 'd']] => return name ++ (← expandFields runs rest)
    | [command] =>
      let declares := declarations.contains (String.ofList command)
      return name ++ (← expandArguments runs declares rest)
    | _ => return name ++ (← expandArguments runs false rest)

end Scaffold.Shell.Run
