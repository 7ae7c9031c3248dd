import Scaffold.Shell.Source
import Scaffold.Shell.Syntax

/-!
# Reading shell scripts

A script is read and run line by line: `Source.next?` reads the commands up to the end of a line,
with everything that is open there. Every reader takes a bound on how many steps there may be, one
inside or after the other; `Source.ofText` computes one from the length of the script. Lists are
read into accumulators, in reverse.
-/

set_option autoImplicit false

namespace Scaffold.Shell

open Text (Octets)

namespace Reader

/-- The name of a parameter after a dollar: a name, a digit, or one of the special characters. -/
def parameterName? : Reader (Option Octets) := do
  match ← rest with
  | c :: _ =>
    if isNameStart c then return some (← takeWhile isNameChar)
    else if c.isDigit || List.contains ['#', '*', '@', '?', '$', '!', '-'] c then
      return some (← take 1)
    else return none
  | [] => return none

/-- The name of a parameter between braces, where there may be several digits. -/
def bracedName? : Reader (Option Octets) := do
  match ← rest with
  | c :: _ =>
    if c.isDigit then return some (← takeWhile Char.isDigit) else parameterName?
  | [] => return none

/-- The parameter between braces is asked for its length: a mark and a parameter are all there
is. -/
def isLengthNext : Reader Bool := do
  match ← rest with
  | '#' :: c :: after =>
    return isNameChar c ||
      (List.contains ['#', '*', '@', '?', '$', '!', '-'] c && after.head? == some '\x7d')
  | _ => return false

/-- The script inside old-style quotes, up to the closing one. -/
def oldQuotes (isQuoted : Bool) : (left : Nat) → (text : Octets) → Reader Octets
  | 0, text => return text
  | left + 1, text => do
    match ← rest with
    | [] => refuse "EOF in backquote substitution"
    | '\x60' :: _ =>
      skip 1
      return text.reverse
    | '\\' :: '\n' :: _ =>
      skip 2
      oldQuotes isQuoted left text
    | '\\' :: c :: _ =>
      skip 2
      let isBare := ['$', '\x60', '\\'].contains c || (isQuoted && c == '\x22')
      oldQuotes isQuoted left (if isBare then c :: text else c :: '\\' :: text)
    | c :: _ =>
      skip 1
      oldQuotes isQuoted left (c :: text)

/-- A text with the homes that its tildes stand for; `atStart` where one may stand, `endsWord` when
nothing follows the text, and `left` bounds its length. In an assignment a tilde may follow every
colon. -/
def homes (inAssignment endsWord : Bool) : (left : Nat) → (atStart : Bool) → Octets → Word
  | 0, _, text => [.text text false]
  | left + 1, atStart, text =>
    let isEnd := fun (c : Char) ↦ c == '/' || (inAssignment && c == ':')
    match atStart, text with
    | true, '~' :: after =>
      let user := after.takeWhile fun c ↦ !isEnd c
      let behind := after.drop user.length
      if behind.isEmpty && !endsWord then [.text text false]
      else .home user :: homes inAssignment endsWord left false behind
    | _, text =>
      let before := text.takeWhile (· != ':')
      let behind := text.drop (before.length + 1)
      if text.isEmpty then []
      else if inAssignment && before.length < text.length then
        .text (before ++ [':']) false :: homes inAssignment endsWord left true behind
      else [.text text false]

/-- The word with the homes that its tildes stand for. -/
def withHomes (inAssignment : Bool) : (atStart : Bool) → Word → Word
  | _, [] => []
  | atStart, .text octets false :: others =>
    let endsWithColon := inAssignment && octets.getLast? == some ':'
    homes inAssignment others.isEmpty (octets.length + 1) atStart octets ++
      withHomes inAssignment endsWithColon others
  | _, part :: others => part :: withHomes inAssignment false others

/-- The word is the list of all arguments, and each is to stay as it is. -/
def isArgumentList : Word → Bool
  | [.parameter ['@'] .keep _] => true
  | _ => false

/-- The text of a word that is plain text. -/
def plainText? : Word → Option Octets
  | [.text octets false] => some octets
  | _ => none

/-- The simple command with what was read, which must be something. -/
def simpleOf (line : Nat) (assignments : List (Octets × Word)) (words : List Word)
    (redirections : List Redirection) : Reader Command :=
  if assignments.isEmpty && words.isEmpty && redirections.isEmpty then unexpected none
  else return .simple line assignments.reverse words.reverse redirections.reverse

mutual

/-- Reads what follows a dollar. -/
def afterDollar : Nat → (isQuoted : Bool) → Reader Part
  | 0, _ => refuse "too long"
  | left + 1, isQuoted => do
    if ← accept "((" then return .number (← expression left 0 []) isQuoted
    if ← accept "(" then
      let body ← list left false []
      skipLines
      if !(← accept ")") then unexpected (some ")")
      return .output body isQuoted
    if ← accept "\x7b" then braced left isQuoted
    else
      match ← parameterName? with
      | some name => return .parameter name .keep isQuoted
      | none => return .text ['$'] isQuoted

/-- Reads an arithmetic expression up to the parentheses that close it; `nested` counts those
that were opened in it. -/
def expression : Nat → (nested : Nat) → Word → Reader Word
  | 0, _, _ => refuse "too long"
  | left + 1, nested, parts => do
    match ← rest with
    | [] => refuse "Missing '))'"
    | '(' :: _ =>
      skip 1
      expression left (nested + 1) (.text ['('] true :: parts)
    | ')' :: after =>
      if nested = 0 then
        if after.head? == some ')' then
          skip 2
          return parts.reverse
        else
          skip 1
          expression left nested (.text [')'] true :: parts)
      else
        skip 1
        expression left (nested - 1) (.text [')'] true :: parts)
    | '\x22' :: _ =>
      skip 1
      expression left nested (.text ['\x22'] true :: parts)
    | _ =>
      let part ← quotedPart left false false
      expression left nested (part :: parts)

/-- Reads a parameter between braces, the opening one read. -/
def braced : Nat → (isQuoted : Bool) → Reader Part
  | 0, _ => refuse "too long"
  | left + 1, isQuoted => do
    if ← isLengthNext then
      skip 1
      let name := (← bracedName?).getD []
      if ← accept "\x7d" then return .parameter name .length isQuoted
      let _ ← bracedWord left isQuoted []
      return .parameter name .unknown isQuoted
    match ← bracedName? with
    | none =>
      let _ ← bracedWord left isQuoted []
      return .parameter [] .unknown isQuoted
    | some name =>
      let part := fun change ↦ Part.parameter name change isQuoted
      let removal := fun (edge : Edge) (isLongest : Bool) ↦ do
        return part (.remove edge isLongest (← bracedWord left false []))
      let fallback := fun (kind : Fallback) (countsEmpty : Bool) ↦ do
        let word ← bracedWord left isQuoted []
        let word := if isQuoted then word else withHomes false true word
        return part (.fallback kind countsEmpty word)
      if ← accept "\x7d" then return part .keep
      if ← accept "##" then return ← removal .start true
      if ← accept "#" then return ← removal .start false
      if ← accept "%%" then return ← removal .finish true
      if ← accept "%" then return ← removal .finish false
      let countsEmpty ← accept ":"
      if ← accept "-" then return ← fallback .use countsEmpty
      if ← accept "=" then return ← fallback .assign countsEmpty
      if ← accept "+" then return ← fallback .alternative countsEmpty
      if ← accept "?" then return ← fallback .complain countsEmpty
      if countsEmpty && (← accept "\x7d") then return part .keep
      let _ ← bracedWord left isQuoted []
      return part .unknown

/-- Reads a word up to a closing brace. -/
def bracedWord : Nat → (isQuoted : Bool) → Word → Reader Word
  | 0, _, _ => refuse "too long"
  | left + 1, isQuoted, parts => do
    match ← rest with
    | [] => refuse "Missing '\x7d'"
    | '\x7d' :: _ =>
      skip 1
      return parts.reverse
    | '\x22' :: _ =>
      skip 1
      let inner ← quotedParts left []
      bracedWord left isQuoted (inner.reverse ++ parts)
    | _ =>
      let part ← if isQuoted then quotedPart left false true else wordPart left
      bracedWord left isQuoted (part :: parts)

/-- Reads one part of a text between double quotes, of a here text, or of what is between braces
there. -/
def quotedPart : Nat → (inHereText inBraces : Bool) → Reader Part
  | 0, _, _ => refuse "too long"
  | left + 1, inHereText, inBraces => do
    match ← rest with
    | '\\' :: '\n' :: _ =>
      skip 2
      return .text [] true
    | '\\' :: c :: _ =>
      let isBare := ['$', '\x60', '\\'].contains c || (c == '\x22' && !inHereText) ||
        (c == '\x7d' && inBraces)
      if isBare then
        skip 2
        return .text [c] true
      else
        skip 1
        return .text ['\\'] true
    | '$' :: _ =>
      skip 1
      afterDollar left true
    | '\x60' :: _ =>
      skip 1
      oldOutput left true
    | c :: after =>
      let isPlain := fun (c : Char) ↦
        isOrdinary c || c == ' ' || c == '/' || (inHereText && c == '\n')
      return .text (c :: (← do skip 1; take (after.takeWhile isPlain).length)) true
    | [] => refuse "Unterminated quoted string"

/-- Reads the parts of a word up to a closing double quote. They begin with an empty one, unless
they are the list of all arguments. -/
def quotedParts : Nat → Word → Reader Word
  | 0, _ => refuse "too long"
  | left + 1, parts => do
    if ← accept "\x22" then
      return if isArgumentList parts then parts else .text [] true :: parts.reverse
    else
      let part ← quotedPart left false false
      quotedParts left (part :: parts)

/-- Reads the whole script as a here text. -/
def hereParts : Nat → Word → Reader Word
  | 0, _ => refuse "too long"
  | left + 1, parts => do
    if (← rest).isEmpty then return parts.reverse
    let part ← quotedPart left true false
    hereParts left (part :: parts)

/-- Reads a script between old-style quotes. -/
def oldOutput : Nat → (isQuoted : Bool) → Reader Part
  | 0, _ => refuse "too long"
  | left + 1, isQuoted => do
    let inner ← oldQuotes isQuoted left []
    let body ← within inner do
      let body ← list left false []
      skipLines
      if !(← rest).isEmpty then unexpected none
      return body
    return .output body isQuoted

/-- Reads one part of a word outside double quotes. -/
def wordPart : Nat → Reader Part
  | 0 => refuse "too long"
  | left + 1 => do
    match ← rest with
    | '\\' :: '\n' :: _ =>
      skip 2
      return .text [] false
    | '\\' :: c :: _ =>
      skip 2
      return .text [c] true
    | '\x27' :: _ =>
      skip 1
      let text ← takeWhile (· != '\x27')
      if !(← accept "\x27") then refuse "Unterminated quoted string"
      return .text text true
    | '\x60' :: _ =>
      skip 1
      oldOutput left false
    | '$' :: _ =>
      skip 1
      afterDollar left false
    | c :: after =>
      skip 1
      return .text (c :: (← take (after.takeWhile isOrdinary).length)) false
    | [] => refuse "Unterminated quoted string"

/-- Reads the parts of a word up to its end. -/
def wordParts : Nat → Word → Reader Word
  | 0, _ => refuse "too long"
  | left + 1, parts => do
    match ← rest with
    | [] => return parts.reverse
    | '\x22' :: _ =>
      skip 1
      let inner ← quotedParts left []
      wordParts left (inner.reverse ++ parts)
    | c :: _ =>
      if isBreak c then return parts.reverse
      let part ← wordPart left
      let joined : Word :=
        match part, parts with
        | .text more false, .text text false :: others => .text (text ++ more) false :: others
        | part, parts => part :: parts
      wordParts left joined

/-- Reads a word after blanks; it must be there. -/
def word : Nat → Reader Word
  | 0 => refuse "too long"
  | left + 1 => do
    skipBlanks
    match ← wordParts left [] with
    | [] => unexpected none
    | parts => return withHomes false true parts

/-- Reads a redirection if one is next. -/
def redirection? : Nat → Reader (Option Redirection)
  | 0 => refuse "too long"
  | left + 1 => do
    let script ← rest
    let digits := (script.take 1).takeWhile Char.isDigit
    let mark := (script.drop digits.length).head?
    if mark != some '<' && mark != some '>' then return none
    skip digits.length
    let given := (String.ofList digits).toNat?
    if ← accept "<<" then
      let dropsTabs ← accept "-"
      skipBlanks
      if (← rest).head?.all isBreak then unexpected none
      let (ending, isQuoted) ← delimiter left [] false
      let body ← takeHereText ending dropsTabs
      let parts ← if isQuoted then pure [Part.text body true] else within body (hereParts left [])
      return some (.text (given.getD 0) parts)
    if ← accept ">>" then return some (.file (given.getD 1) .append (← target left))
    if ← accept ">&" then return some (.copy (given.getD 1) (← target left))
    if ← accept "<&" then return some (.copy (given.getD 0) (← target left))
    if ← accept ">|" then return some (.file (given.getD 1) .replace (← target left))
    if ← accept "<>" then return some (.file (given.getD 0) .update (← target left))
    if ← accept "<" then return some (.file (given.getD 0) .read (← target left))
    skip 1
    return some (.file (given.getD 1) .make (← target left))

/-- Reads the word that a redirection leads to; a digit in front of another one is no word. -/
def target : Nat → Reader Word
  | 0 => refuse "too long"
  | left + 1 => do
    skipBlanks
    match ← rest with
    | digit :: mark :: _ =>
      if digit.isDigit && (mark == '<' || mark == '>') then skip 1 *> unexpected none
      else word left
    | _ => word left

/-- Reads redirections as long as there are any. -/
def redirections : Nat → List Redirection → Reader (List Redirection)
  | 0, _ => refuse "too long"
  | left + 1, found => do
    skipBlanks
    match ← redirection? left with
    | none => return found.reverse
    | some next => redirections left (next :: found)

/-- Reads an assignment if one is next. -/
def assignment? : Nat → Reader (Option (Octets × Word))
  | 0 => refuse "too long"
  | left + 1 => do
    let script ← rest
    let name := script.takeWhile isNameChar
    if script.head?.any isNameStart && (script.drop name.length).head? == some '=' then
      skip (name.length + 1)
      return some (name, withHomes true true (← wordParts left []))
    else return none

/-- Reads the words of a simple command, or the definition of a function. -/
def simple : Nat → (line : Nat) → List (Octets × Word) → List Word → List Redirection →
    Reader Command
  | 0, _, _, _, _ => refuse "too long"
  | left + 1, line, assignments, words, redirections => do
    skipBlanks
    match ← redirection? left with
    | some next => simple left line assignments words (next :: redirections)
    | none =>
      match ← rest with
      | [] => simpleOf line assignments words redirections
      | c :: _ =>
        if c == '(' && assignments.isEmpty && redirections.isEmpty && words.length == 1 then
          definition left ((words.head?.bind plainText?).getD [])
        else if isBreak c then simpleOf line assignments words redirections
        else if words.isEmpty && (← replaceAlias) then
          simple left line assignments words redirections
        else
          let found ← if words.isEmpty then assignment? left else pure none
          match found with
          | some next => simple left line (next :: assignments) words redirections
          | none => simple left line assignments ((← word left) :: words) redirections

/-- Reads the definition of a function after its name. -/
def definition : Nat → (name : Octets) → Reader Command
  | 0, _ => refuse "too long"
  | left + 1, name => do
    skip 1
    expect ")"
    if !isName name || fixedNames.any (·.toList == name) then refuse "Bad function name"
    skipLines
    return .define name (← command left)

/-- Reads words up to the end of a line or a semicolon. -/
def words : Nat → List Word → Reader (List Word)
  | 0, _ => refuse "too long"
  | left + 1, found => do
    skipBlanks
    match ← rest with
    | [] => return found.reverse
    | c :: _ =>
      if isBreak c then return found.reverse
      words left ((← word left) :: found)

/-- Reads the patterns of an arm, up to the closing parenthesis. -/
def patterns : Nat → List Word → Reader (List Word)
  | 0, _ => refuse "too long"
  | left + 1, found => do
    skipBlanks
    let isWord := (← rest).head?.any fun c ↦ !isBreak c
    if !isWord then skipMark
    let found ← if isWord then (return (← word left) :: found : Reader (List Word)) else pure found
    skipBlanks
    if (← isNext "|") && !(← isNext "||") then
      skip 1
      patterns left found
    else
      if (← rest).head?.any fun c ↦ !isBreak c then
        refuse "word unexpected (expecting \x22)\x22)"
      expect ")"
      return found.reverse

/-- Reads the arms of a selection. -/
def arms : Nat → List (List Word × List Command) → Reader (List (List Word × List Command))
  | 0, _ => refuse "too long"
  | left + 1, found => do
    if ← acceptWord "esac" then return found.reverse
    let _ ← accept "("
    let first ← patterns left []
    let body ← list left false []
    let found := (first, body) :: found
    skipLines
    if ← accept ";;" then arms left found
    else
      if !(← acceptWord "esac") then unexpected (some ";;")
      return found.reverse

/-- Reads what follows the word `if` or `elif`. -/
def choice : Nat → Reader Command
  | 0 => refuse "too long"
  | left + 1 => do
    let condition ← list left true []
    expectWord "then"
    let yes ← list left true []
    if ← acceptWord "elif" then return .choose condition yes [← choice left]
    if ← acceptWord "else" then
      let no ← list left true []
      expectWord "fi"
      return .choose condition yes no
    expectWord "fi"
    return .choose condition yes []

/-- Reads the body of a loop. -/
def loopBody : Nat → Reader (List Command)
  | 0 => refuse "too long"
  | left + 1 => do
    expectWord "do"
    let body ← list left true []
    expectWord "done"
    return body

/-- Reads a loop over words, the word `for` read. -/
def overWords : Nat → Reader Command
  | 0 => refuse "too long"
  | left + 1 => do
    let line := (← get).line
    skipBlanks
    let name ← peekWord
    if !isName name then refuse "Bad for loop variable"
    skip name.length
    if ← acceptWord "in" then
      let listed ← words left []
      if !((← accept ";") || (← isNext "\n")) then unexpected none
      return .each line name listed (← loopBody left)
    let _ ← accept ";"
    return .each line name [[.parameter ['@'] .keep true]] (← loopBody left)

/-- Reads a command that is not a pipeline. -/
def command : Nat → Reader Command
  | 0 => refuse "too long"
  | left + 1 => do
    skipBlanks
    let line := (← get).line
    let wrap := fun (body : Command) ↦ do
      match ← redirections left [] with
      | [] => return body
      | others => return .redirected line body others
    if ← accept "(" then
      let body ← list left true []
      skipLines
      expect ")"
      return ← wrap (.subshell body)
    match String.ofList (← peekWord) with
    | "\x7b" =>
      skip 1
      let body ← list left true []
      expectWord "\x7d"
      wrap (.group body)
    | "if" =>
      skip 2
      wrap (← choice left)
    | "while" =>
      skip 5
      let condition ← list left true []
      wrap (.loop false condition (← loopBody left))
    | "until" =>
      skip 5
      let condition ← list left true []
      wrap (.loop true condition (← loopBody left))
    | "for" =>
      skip 3
      wrap (← overWords left)
    | "case" =>
      skip 4
      skipBlanks
      if (← rest).head?.all isBreak then unexpectedFor "word"
      let subject ← word left
      expectWord "in"
      wrap (.select line subject (← arms left []))
    | name =>
      if keywords.contains name && name != "in" then unexpected none
      else if ← replaceAlias then command left
      else simple left line [] [] []

/-- Reads the commands of a pipeline. -/
def stages : Nat → List Command → Reader (List Command)
  | 0, _ => refuse "too long"
  | left + 1, found => do
    let found := (← command left) :: found
    skipBlanks
    if (← isNext "|") && !(← isNext "||") then
      skip 1
      skipLines
      stages left found
    else return found.reverse

/-- Reads a pipeline. -/
def pipeline : Nat → Reader Command
  | 0 => refuse "too long"
  | left + 1 => do
    skipBlanks
    let isNegated ← isWordNext "!"
    if isNegated then skip 1
    let body : Command :=
      match ← stages left [] with
      | [only] => only
      | several => .pipeline several
    return if isNegated then .negated body else body

/-- Reads pipelines joined by `&&` and `||` after a first one. -/
def joined : Nat → Command → Reader Command
  | 0, _ => refuse "too long"
  | left + 1, first => do
    skipBlanks
    if ← accept "&&" then
      skipLines
      joined left (.both first (← pipeline left))
    else if ← accept "||" then
      skipLines
      joined left (.either first (← pipeline left))
    else return first

/-- Reads commands up to the end of the list they are in, which may have to be one at least. -/
def list : Nat → (isRequired : Bool) → List Command → Reader (List Command)
  | 0, _, _ => refuse "too long"
  | left + 1, isRequired, found => do
    skipLines
    if ← isAtEnd then
      if isRequired && found.isEmpty && !(← rest).isEmpty then unexpected none
      return found.reverse
    let next ← joined left (← pipeline left)
    skipBlanks
    if ← isNext ";;" then return (next :: found).reverse
    if ← accept "&" then list left isRequired (.background next :: found)
    else if (← accept ";") || (← accept "\n") then list left isRequired (next :: found)
    else return (next :: found).reverse

end

/-- Reads commands up to the end of the line. -/
def line : Nat → List Command → Reader (List Command)
  | 0, _ => refuse "too long"
  | left + 1, found => do
    skipBlanks
    if (← accept "\n") || (← rest).isEmpty then return found.reverse
    let next ← joined left (← pipeline left)
    skipBlanks
    if (← isNext ";;") then unexpected none
    if ← accept "&" then line left (.background next :: found)
    else if ← accept ";" then line left (next :: found)
    else if (← accept "\n") || (← rest).isEmpty then return (next :: found).reverse
    else unexpected none

end Reader

namespace Source

/-- A script with the number of its first line. -/
def ofText (line : Nat) (text : Octets) : Source :=
  ⟨text, line, 0, [], []⟩

/-- The steps that reading a text may take. -/
def bound (text : Octets) : Nat :=
  16 * (text.length + 4)

/-- What comes of reading a line: commands and the script after them, a message with the line that
it is about, or the end of the script. -/
inductive Line
  | commands (body : List Command) (after : Source)
  | refused (line : Nat) (message : Octets)
  | finished

/-- Reads the next line of commands in so many steps. -/
def next (left : Nat) (source : Source) : Line :=
  match (Reader.skipLines *> Reader.rest).run source with
  | .error message after => .refused after.line message
  | .ok [] _ => .finished
  | .ok _ start =>
    match (Reader.line left []).run start with
    | .ok body after => .commands body after
    | .error message after => .refused after.line message

end Source

end Scaffold.Shell
