import Scaffold.Text.Octets

/-!
# The text of a shell script

A reader takes what it reads off the front of a script and counts the lines on its way. What cannot
be read stops it with a message. A name at the place of a command may be an alias: then its text is
read in its place, in which the same name means itself.
-/

set_option autoImplicit false

namespace Scaffold.Shell

open Text (Octets)

/-- A script from where it is read on. -/
structure Source where
  rest : Octets
  line : Nat
  /-- The lines that were read ahead of the end of this line. -/
  ahead : Nat
  aliases : List (Octets × Octets)
  /-- The aliases whose texts are being read, with what is left behind them. -/
  replaced : List (Octets × Nat)

/-- A reader of a script. -/
abbrev Reader := EStateM Octets Source

namespace Reader

/-- The characters that end a word. -/
def isBreak (c : Char) : Bool :=
  [' ', '\t', '\n', ';', '&', '|', '(', ')', '<', '>'].contains c

/-- A character that quotes or stands for something. -/
def isActive (c : Char) : Bool :=
  ['\\', '\x27', '\x22', '\x60', '$'].contains c

/-- A character without a meaning of its own, in any word and between double quotes. -/
def isOrdinary (c : Char) : Bool :=
  !isBreak c && !isActive c && c != '\x7d'

/-- A character that a name may begin with. -/
def isNameStart (c : Char) : Bool :=
  c.isAlpha || c == '_'

/-- A character that a name may hold. -/
def isNameChar (c : Char) : Bool :=
  c.isAlphanum || c == '_'

/-- The text is a name. -/
def isName (text : Octets) : Bool :=
  text.head?.any isNameStart && text.all isNameChar

/-- How many characters at the front are blanks, escaped line ends, or a comment. -/
def blankLength : Octets → Nat
  | '\\' :: '\n' :: rest => blankLength rest + 2
  | c :: rest =>
    if c = ' ' ∨ c = '\t' then blankLength rest + 1
    else if c = '#' then (rest.takeWhile (· != '\n')).length + 1
    else 0
  | [] => 0

/-- How many characters at the front are blanks, comments, or line ends; `inComment` inside a
comment. -/
def gapLength : (inComment : Bool) → Octets → Nat
  | false, '\\' :: '\n' :: rest => gapLength false rest + 2
  | true, c :: rest => gapLength (c != '\n') rest + 1
  | false, c :: rest =>
    if c = ' ' ∨ c = '\t' ∨ c = '\n' then gapLength false rest + 1
    else if c = '#' then gapLength true rest + 1
    else 0
  | _, [] => 0

/-- Stops with a message. -/
def refuse {α : Type} (message : String) : Reader α :=
  throw (Octets.ofText message)

/-- The script from here on. -/
def rest : Reader Octets := do
  return (← get).rest

/-- Reads so many characters. -/
def take (count : Nat) : Reader Octets := do
  let source ← get
  let text := source.rest.take count
  let ends := text.countP (· == '\n')
  let line := if ends = 0 then source.line else source.line + ends + source.ahead
  let ahead := if ends = 0 then source.ahead else 0
  set { source with rest := source.rest.drop count, line, ahead }
  return text

/-- Passes over so many characters. -/
def skip (count : Nat) : Reader Unit := do
  let _ ← take count

/-- Reads the characters that satisfy `test`. -/
def takeWhile (test : Char → Bool) : Reader Octets := do
  take ((← rest).takeWhile test).length

/-- Passes over blanks. -/
def skipBlanks : Reader Unit := do
  skip (blankLength (← rest))

/-- Passes over blanks and line ends. -/
def skipLines : Reader Unit := do
  skip (gapLength false (← rest))

/-- The script begins with these characters. -/
def isNext (text : String) : Reader Bool := do
  return text.toList.isPrefixOf (← rest)

/-- Passes over these characters if they are next. -/
def accept (text : String) : Reader Bool := do
  if ← isNext text then
    skip text.length
    return true
  else
    return false

/-- The plain word at the front of the script. -/
def peekWord : Reader Octets := do
  return (← rest).takeWhile fun c ↦ !isBreak c

/-- The script begins with this word. -/
def isWordNext (word : String) : Reader Bool := do
  return (← peekWord) == word.toList

/-- The words with a meaning of their own at the place of a command. -/
def keywords : List String :=
  ["!", "case", "do", "done", "elif", "else", "esac", "fi", "for", "if", "in", "then", "until",
    "while", "\x7b", "\x7d"]

/-- The names of commands that no function may have. -/
def fixedNames : List String :=
  [".", ":", "break", "continue", "eval", "exec", "exit", "export", "local", "readonly", "return",
    "set", "shift", "times", "trap", "unset"]

/-- The words that end a list of commands. -/
def closingWords : List String :=
  ["then", "else", "elif", "fi", "do", "done", "esac", "\x7d"]

/-- The marks between commands, of two that begin alike the longer first. -/
def marks : List String :=
  [";;", ";", "&&", "&", "||", "|", "(", ")"]

/-- What comes next, as it is called in a message. -/
def nextName : Reader Octets := do
  let quoted := fun (text : Octets) ↦ '\x22' :: text ++ ['\x22']
  let script ← rest
  match script with
  | [] => return Octets.ofText "end of file"
  | '\n' :: _ => return Octets.ofText "newline"
  | c :: _ =>
    if c = '<' ∨ c = '>' then return Octets.ofText "redirection"
    match marks.find? fun mark ↦ mark.toList.isPrefixOf script with
    | some mark => return quoted mark.toList
    | none =>
      let word ← peekWord
      if keywords.any (·.toList == word) then return quoted word
      else return Octets.ofText "word"

/-- Refuses what comes next, where something else is expected. -/
def unexpectedFor {α : Type} (expected : String) : Reader α := do
  skipBlanks
  throw ((← nextName) ++ Octets.ofText (" unexpected (expecting " ++ expected ++ ")"))

/-- Refuses what comes next. -/
def unexpected {α : Type} (expected : Option String) : Reader α := do
  match expected with
  | some text => unexpectedFor ("\x22" ++ text ++ "\x22")
  | none =>
    skipBlanks
    throw ((← nextName) ++ Octets.ofText " unexpected")

/-- Passes over these characters after blanks; they must be next. -/
def expect (text : String) : Reader Unit := do
  skipBlanks
  if !(← accept text) then unexpected (some text)

/-- Passes over what comes next if it is no word. -/
def skipMark : Reader Unit := do
  let script ← rest
  match marks.find? fun mark ↦ mark.toList.isPrefixOf script with
  | some mark => skip mark.length
  | none => skip 1

/-- Passes over a word after blanks and line ends if it is next. -/
def acceptWord (word : String) : Reader Bool := do
  skipLines
  if ← isWordNext word then accept word else return false

/-- Passes over a word after blanks and line ends; it must be next. -/
def expectWord (word : String) : Reader Unit := do
  if !(← acceptWord word) then unexpected (some word)

/-- The script is at the end of a list of commands. -/
def isAtEnd : Reader Bool := do
  let script ← rest
  if script.isEmpty || script.head? == some ')' then return true
  if ← isNext ";;" then return true
  let word ← peekWord
  return closingWords.any (·.toList == word)

/-- Reads another text instead of the script. -/
def within {α : Type} (text : Octets) (read : Reader α) : Reader α := do
  let source ← get
  set { source with rest := text, ahead := 0 }
  let result ← read
  set source
  return result

/-- Puts the text of an alias in its place, if one is next. -/
def replaceAlias : Reader Bool := do
  let source ← get
  if source.aliases.isEmpty then return false
  let word ← peekWord
  let replaced := source.replaced.filter fun entry ↦ entry.2 < source.rest.length
  match source.aliases.lookup word with
  | none => return false
  | some text =>
    if replaced.any (·.1 == word) then return false
    let behind := source.rest.drop word.length
    set { source with
      rest := text ++ behind, replaced := (word, behind.length) :: replaced }
    return true

/-! ### Here texts -/

/-- The lines up to the one that is the delimiter, what follows it, and how many lines these are;
`dropsTabs` when tabs at the front of lines do not count. `left` bounds the number of lines. -/
def hereLines (delimiter : Octets) (dropsTabs : Bool) :
    (left : Nat) → (lines : List Octets) → Octets → List Octets × Octets × Nat
  | 0, lines, text => (lines, text, lines.length)
  | left + 1, lines, text =>
    if text.isEmpty then (lines, [], lines.length)
    else
      let line := text.takeWhile (· != '\n')
      let after := text.drop (line.length + 1)
      let shown := if dropsTabs then line.dropWhile (· == '\t') else line
      if shown == delimiter then (lines, after, lines.length + 1)
      else
        let ending := if line.length < text.length then ['\n'] else []
        hereLines delimiter dropsTabs left ((shown ++ ending) :: lines) after

/-- Takes a here text out of the lines after this one. -/
def takeHereText (delimiter : Octets) (dropsTabs : Bool) : Reader Octets := do
  let source ← get
  let line := source.rest.takeWhile (· != '\n')
  let below := source.rest.drop (line.length + 1)
  let (lines, after, count) := hereLines delimiter dropsTabs below.length [] below
  set { source with rest := line ++ '\n' :: after, ahead := source.ahead + count }
  return lines.reverse.flatten

/-- Reads the delimiter of a here text: its text, and whether a part of it is quoted. -/
def delimiter : (left : Nat) → (text : Octets) → (isQuoted : Bool) → Reader (Octets × Bool)
  | 0, text, isQuoted => return (text, isQuoted)
  | left + 1, text, isQuoted => do
    match ← rest with
    | '\\' :: c :: _ =>
      skip 2
      delimiter left (text ++ [c]) true
    | c :: _ =>
      if c = '\x27' ∨ c = '\x22' then
        skip 1
        let inner ← takeWhile (· != c)
        skip 1
        delimiter left (text ++ inner) true
      else if isBreak c then return (text, isQuoted)
      else
        skip 1
        delimiter left (text ++ [c]) isQuoted
    | [] => return (text, isQuoted)

end Reader

end Scaffold.Shell
