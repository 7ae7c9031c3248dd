import Scaffold.Shell.Search.Dialect

/-!
# Reading Perl expressions

The expressions of Perl have marks of their own for what comes before and after a part, for
repetitions that are lazy or settled, and for letters that stand for classes. Of the matches at a
place the preferred one counts. `Perl.read` reads such an expression.
-/

set_option autoImplicit false

namespace Scaffold.Shell

open Text (Octets)

namespace Perl

/-- What a part of an expression is read under. -/
structure Flags where
  folds : Bool
  isLinewise : Bool
  dotTakesAll : Bool
  skipsBlanks : Bool

/-- Where the reading of an expression stands. -/
structure Reading where
  rest : Octets
  groups : Nat
  names : List (Octets × Nat)
  flags : Flags

/-- A part of the reading of an expression. -/
abbrev Reader := StateT Reading (Except SearchFault)

/-- Refuses an expression. -/
def refuse {α : Type} (text : String) : Reader α :=
  throw (.other text)

/-- Passes over a text if it is next. -/
def accept (text : String) : Reader Bool := do
  let reading ← get
  if text.toList.isPrefixOf reading.rest then
    set { reading with rest := reading.rest.drop text.length }
    return true
  else return false

/-- Takes the octets up to one that does not pass. -/
def takeWhile (test : Char → Bool) : Reader Octets := do
  let reading ← get
  let taken := reading.rest.takeWhile test
  set { reading with rest := reading.rest.drop taken.length }
  return taken

/-- The octets that are in none of some ranges. -/
def others (ranges : List (Char × Char)) : List (Char × Char) :=
  (List.range 256).filterMap fun code ↦
    let c := Char.ofNat code
    if ranges.any fun range ↦ range.1 ≤ c && c ≤ range.2 then none else some (c, c)

/-- The ranges of a letter that stands for a class after a backslash. -/
def letterRanges? (letter : Char) : Option (List (Char × Char)) :=
  let blanks := [('\t', '\t'), (' ', ' '), (Char.ofNat 0xA0, Char.ofNat 0xA0)]
  let breaks := [('\n', '\r'), (Char.ofNat 0x85, Char.ofNat 0x85)]
  let word := ('_', '_') :: Step.classRanges "alnum"
  match letter with
  | 'd' => some (Step.classRanges "digit")
  | 'w' => some word
  | 's' => some (Step.classRanges "space")
  | 'h' => some blanks
  | 'v' => some breaks
  | 'D' => some (others (Step.classRanges "digit"))
  | 'W' => some (others word)
  | 'S' => some (others (Step.classRanges "space"))
  | 'H' => some (others blanks)
  | 'V' => some (others breaks)
  | 'N' => some (others [('\n', '\n')])
  | _ => none

/-- The octets of a kind of character, by the letters for the kind; of a first letter alone all its
kinds. -/
def kindRanges? (kind : String) : Option (List (Char × Char)) :=
  let upper := [('A', 'Z'), ('À', 'Ö'), ('Ø', 'Þ')]
  let lower := [('a', 'z'), ('µ', 'µ'), ('ß', 'ö'), ('ø', 'ÿ')]
  let digits := [('0', '9')]
  let blanks := [(' ', ' '), (Char.ofNat 0xA0, Char.ofNat 0xA0)]
  let signs := [('$', '$'), ('+', '+'), ('<', '>'), ('^', '^'), ('\x60', '\x60'), ('|', '|'),
    ('~', '~')]
  let marks := (Step.classRanges "punct").flatMap fun (first, last) ↦
    (List.range (last.toNat + 1 - first.toNat)).filterMap fun index ↦
      let c := Char.ofNat (first.toNat + index)
      if signs.any fun range ↦ range.1 ≤ c && c ≤ range.2 then none else some (c, c)
  match kind with
  | "L" => some (upper ++ lower ++ [('ª', 'ª'), ('º', 'º')])
  | "L&" => some (upper ++ lower)
  | "Lu" => some upper
  | "Ll" => some lower
  | "N" => some (digits ++ [('²', '³'), ('¹', '¹'), ('¼', '¾')])
  | "Nd" => some digits
  | "P" => some marks
  | "S" => some signs
  | "Z" | "Zs" => some blanks
  | "C" | "Cc" => some [('\x00', '\x1f'), ('\x7f', Char.ofNat 0x9F)]
  | "Any" => some [('\x00', Char.ofNat 255)]
  | "Xan" => some (upper ++ lower ++ digits)
  | "Xwd" => some (('_', '_') :: upper ++ lower ++ digits)
  | "Xsp" | "Xps" => some (Step.classRanges "space" ++ blanks)
  | _ => none

/-- The octet of a letter after a backslash that stands for one. -/
def letterOctet? : Char → Option Char
  | 'a' => some '\x07'
  | 'e' => some '\x1b'
  | 'f' => some '\x0c'
  | 'n' => some '\n'
  | 'r' => some '\r'
  | 't' => some '\t'
  | _ => none

/-- The octet of a number. -/
def octetOf (base : Nat) (digits : Octets) : Char :=
  Char.ofNat (Text.digitsValue base digits % 256)

/-- A digit of the base eight. -/
def isOctal (c : Char) : Bool :=
  '0' ≤ c && c < '8'

/-- A digit of the base sixteen. -/
def isHex (c : Char) : Bool :=
  c.isDigit || ('a' ≤ c && c ≤ 'f') || ('A' ≤ c && c ≤ 'F')

/-- Takes digits, at most so many. -/
def digits (test : Char → Bool) (most : Nat) : Reader Octets := do
  let reading ← get
  let taken := (reading.rest.takeWhile test).take most
  set { reading with rest := reading.rest.drop taken.length }
  return taken

/-- Takes what stands up to a closing mark. -/
def upTo (mark : Char) : Reader Octets := do
  let taken ← takeWhile (· != mark)
  if (← get).rest.isEmpty then refuse "syntax error in subpattern name (missing terminator?)"
  let _ ← accept (String.ofList [mark])
  return taken

/-- Reads the name of a kind of character after a backslash and a letter, of which an upper one asks
for all other octets. -/
def kind (letter : Char) : Reader (List (Char × Char)) := do
  let isEnd := (← get).rest.head?.all fun c ↦ !c.isAlpha && c != '\x7b'
  if isEnd then refuse "malformed \\P or \\p sequence"
  let name ←
    if ← accept "\x7b" then upTo '\x7d'
    else do
      let reading ← get
      set { reading with rest := reading.rest.drop 1 }
      pure (reading.rest.take 1)
  let isOpposite := name.head? = some '^'
  let name := if isOpposite then name.drop 1 else name
  match kindRanges? (String.ofList name) with
  | some ranges => return if isOpposite != (letter == 'P') then others ranges else ranges
  | none => refuse "unknown property after \\P or \\p"

/-- Reads an octet that is written as a number or a letter after a backslash, if there is one. -/
def numberedOctet? (letter : Char) : Reader (Option Char) := do
  match letter with
  | 'x' =>
    if ← accept "\x7b" then return some (octetOf 16 (← upTo '\x7d'))
    else return some (octetOf 16 (← digits isHex 2))
  | 'o' =>
    if ← accept "\x7b" then return some (octetOf 8 (← upTo '\x7d'))
    else refuse "missing opening brace after \\o"
  | 'c' =>
    let reading ← get
    match reading.rest with
    | [] => refuse "\\c at end of pattern"
    | c :: rest =>
      set { reading with rest }
      return some (Char.ofNat (c.toUpper.toNat ^^^ 64))
  | '0' => return some (octetOf 8 ('0' :: (← digits isOctal 2)))
  | letter => return letterOctet? letter

/-- The expression of one octet. -/
def single (c : Char) : Reader Expression := do
  let plain := Expression.octet c
  return if (← get).flags.folds then plain.folded else plain

/-- The expression of one octet of some ranges. -/
def oneOf (isNegated : Bool) (ranges : List (Char × Char)) : Reader Expression := do
  let plain := Expression.oneOf isNegated ranges
  return if (← get).flags.folds then plain.folded else plain

/-- What is listed first in brackets: an octet, or a class. -/
inductive Item
  | octet (c : Char)
  | classOf (ranges : List (Char × Char))

/-- Reads the name of a class in brackets, if there is one. -/
def namedClass? : Reader (Option (List (Char × Char))) := do
  let reading ← get
  match reading.rest with
  | '[' :: ':' :: rest =>
    match Bracket.nameUpTo? ':' (rest.length + 1) rest with
    | none => return none
    | some (name, rest) =>
      let isNegated := name.head? = some '^'
      let name := String.ofList (if isNegated then name.drop 1 else name)
      let ranges :=
        if name = "word" then ('_', '_') :: Step.classRanges "alnum"
        else if name = "ascii" then [('\x00', '\x7f')]
        else Step.classRanges name
      if ranges.isEmpty then refuse "unknown POSIX class name"
      set { reading with rest }
      return some (if isNegated then others ranges else ranges)
  | '[' :: mark :: rest =>
    if (mark = '.' ∨ mark = '=') ∧ (Bracket.nameUpTo? mark (rest.length + 1) rest).isSome then
      refuse "POSIX collating elements are not supported"
    return none
  | _ => return none

/-- Reads one thing that is listed in brackets. -/
def item : Reader Item := do
  if let some ranges ← namedClass? then return .classOf ranges
  let reading ← get
  match reading.rest with
  | '\\' :: c :: rest =>
    set { reading with rest }
    if c = 'b' then return .octet '\x08'
    if c = 'p' ∨ c = 'P' then return .classOf (← kind c)
    match letterRanges? c with
    | some ranges => return .classOf ranges
    | none =>
      match ← numberedOctet? c with
      | some found => return .octet found
      | none =>
        if isOctal c then return .octet (octetOf 8 (c :: (← digits isOctal 2)))
        else return .octet c
  | c :: rest =>
    set { reading with rest }
    return .octet c
  | [] => refuse "missing terminating ] for character class"

/-- Reads what is listed up to the closing bracket. -/
def items : (left : Nat) → (isFirst : Bool) → Reader (List (Char × Char))
  | 0, _ => refuse "regular expression is too large"
  | left + 1, isFirst => do
    if !isFirst then
      if ← accept "]" then return []
    if (← get).rest.isEmpty then refuse "missing terminating ] for character class"
    if ← accept "\\E" then return ← items left isFirst
    let first ← item
    let after := (← get).rest
    let isRange := after.head? = some '-' && (after.drop 1).head? != some ']' && after.length > 1
    match first with
    | .classOf ranges =>
      if isRange then refuse "invalid range in character class"
      return ranges ++ (← items left false)
    | .octet first =>
      if isRange then
        let _ ← accept "-"
        match ← item with
        | .octet last =>
          if last < first then refuse "range out of order in character class"
          return (first, last) :: (← items left false)
        | .classOf _ => refuse "invalid range in character class"
      else return (first, first) :: (← items left false)

/-- Reads brackets after the opening one. -/
def brackets : Reader Expression := do
  let isNegated ← accept "^"
  oneOf isNegated (← items ((← get).rest.length + 1) true)

/-- The bounds of a repetition in braces, and what follows them. -/
def bounds? (text : Octets) : Option (Nat × Option Nat × Octets) :=
  let first := text.takeWhile Char.isDigit
  let after := text.drop first.length
  let least := Text.digitsValue 10 first
  match after with
  | '\x7d' :: rest => if first.isEmpty then none else some (least, some least, rest)
  | ',' :: rest =>
    let second := rest.takeWhile Char.isDigit
    let rest := rest.drop second.length
    if first.isEmpty then none
    else if rest.head? = some '\x7d' then
      let most := if second.isEmpty then none else some (Text.digitsValue 10 second)
      some (least, most, rest.drop 1)
    else none
  | _ => none

/-- Reads the repetitions after a piece. -/
def repetitions : (left : Nat) → Expression → Reader Expression
  | 0, _ => refuse "regular expression is too large"
  | left + 1, body => do
    let reading ← get
    let found? : Option (Nat × Option Nat × Octets) :=
      match reading.rest with
      | '*' :: rest => some (0, none, rest)
      | '+' :: rest => some (1, none, rest)
      | '?' :: rest => some (0, some 1, rest)
      | '\x7b' :: rest => bounds? rest
      | _ => none
    match found? with
    | none => return body
    | some (least, most, rest) =>
      set { reading with rest }
      if most.any (· < least) then refuse "numbers out of order in \x7b\x7d quantifier"
      let isLazy ← accept "?"
      let isSettled ← if isLazy then pure false else accept "+"
      let whole := Expression.repeated body least most isLazy
      if isLazy || isSettled then
        repetitions left (if isSettled then .settled whole else whole)
      else
        match (← get).rest with
        | '*' :: _ | '+' :: _ | '?' :: _ =>
          refuse "quantifier does not follow a repeatable item"
        | _ => repetitions left whole

/-- Changes flags for what follows up to the end of the group; gives the mark that ends the
letters. -/
def changeFlags : (left : Nat) → (value : Bool) → Reader Char
  | 0, _ => refuse "unrecognized character after (? or (?-"
  | left + 1, value => do
    let reading ← get
    match reading.rest with
    | [] => refuse "missing closing parenthesis"
    | c :: rest =>
      let flags := reading.flags
      set { reading with rest }
      let go (flags : Flags) : Reader Char := do
        modify fun reading ↦ { reading with flags }
        changeFlags left value
      match c with
      | ')' | ':' => return c
      | '-' => changeFlags left false
      | 'i' => go { flags with folds := value }
      | 'm' => go { flags with isLinewise := value }
      | 's' => go { flags with dotTakesAll := value }
      | 'x' => go { flags with skipsBlanks := value }
      | 'J' | 'U' | 'n' => go flags
      | _ => refuse "unrecognized character after (? or (?-"

/-- The number of a group of this name. -/
def groupNamed (name : Octets) : Reader Nat := do
  match (← get).names.lookup name with
  | some number => return number
  | none => refuse "reference to non-existent subpattern"

/-- The expression that asks for a group again. -/
def again (number : Nat) : Reader Expression := do
  return .again number (← get).flags.folds

/-- How many octets an expression stands for, if that is always the same number. -/
def width? : Expression → Option Nat
  | .octet _ | .any | .oneOf _ _ => some 1
  | .sequence first second => do return (← width? first) + (← width? second)
  | .either first second => do
    let width ← width? first
    if (← width? second) = width then return width else none
  | .repeated body least most _ => do
    if most = some least then return least * (← width? body) else none
  | .group _ _ body | .settled body => width? body
  | .again _ _ => none
  | .given _ yes no => do
    let width ← width? yes
    if (← width? no) = width then return width else none
  | _ => some 0

/-- Each alternative always stands for the same number of octets. -/
def isFixed : Expression → Bool
  | .either first second => (width? first).isSome && isFixed second
  | expression => (width? expression).isSome

/-- An expression for what comes before, if that is always as long. -/
def fixed (body : Expression) : Reader Expression := do
  if isFixed body then return body else refuse "lookbehind assertion is not fixed length"

/-- The largest number of a group that is asked for again. -/
def lastAgain : Expression → Nat
  | .again number _ => number
  | .sequence first second | .either first second => max (lastAgain first) (lastAgain second)
  | .repeated body _ _ _ | .group _ _ body | .settled body => lastAgain body
  | .ahead _ body | .behind _ body => lastAgain body
  | .given number yes no => max number (max (lastAgain yes) (lastAgain no))
  | _ => 0

/-- Reads a number that asks for a group, in braces or not; one with a sign counts from the last
group. -/
def groupNumber : Reader Expression := do
  let isBraced ← accept "\x7b"
  let isBack ← accept "-"
  let text ← takeWhile fun c ↦ c.isAlphanum || c == '_'
  if isBraced then
    if !(← accept "\x7d") then refuse "a numbered reference must not be zero"
  let value := Text.digitsValue 10 text
  if text.any fun c ↦ !c.isDigit then again (← groupNamed text)
  else if isBack then
    if (← get).groups < value then refuse "reference to non-existent subpattern"
    again ((← get).groups + 1 - value)
  else again value

/-- Reads what a letter after a backslash stands for. -/
def escape (c : Char) : Reader Expression := do
  match letterRanges? c with
  | some ranges => oneOf false ranges
  | none =>
    match c with
    | 'b' => return .edge .word
    | 'B' => return .edge .noWord
    | 'A' | 'G' => return .edge .textStart
    | 'Z' => return .edge .lastLineEnd
    | 'z' => return .edge .textEnd
    | 'K' => return .cut
    | 'p' | 'P' => oneOf false (← kind c)
    | 'X' | 'C' => return .any
    | 'F' | 'L' | 'l' | 'U' | 'u' =>
      refuse "PCRE2 does not support \\F, \\L, \\l, \\N\x7bname\x7d, \\U, or \\u"
    | 'R' =>
      let breaks := Expression.oneOf false ((letterRanges? 'v').getD [])
      return .settled (.either (.sequence (.octet '\r') (.octet '\n')) breaks)
    | 'g' => groupNumber
    | 'k' =>
      let mark ← takeWhile fun c ↦ c == '<' || c == '\x7b' || c == '\x27'
      let name ← takeWhile fun c ↦ c.isAlphanum || c == '_'
      let _ ← takeWhile fun c ↦ c == '>' || c == '\x7d' || c == '\x27'
      if mark.isEmpty then
        refuse "\\k is not followed by a braced, angle-bracketed, or quoted name"
      again (← groupNamed name)
    | c =>
      if c.isDigit && c != '0' then
        let more ← takeWhile Char.isDigit
        let value := Text.digitsValue 10 (c :: more)
        if value < 10 || value ≤ (← get).groups then again value
        else if isOctal c then
          modify fun reading ↦ { reading with rest := more ++ reading.rest }
          single (octetOf 8 (c :: (← digits isOctal 2)))
        else single c
      else
        match ← numberedOctet? c with
        | some found => single found
        | none =>
          if c.isAlpha then refuse "unrecognized character follows \\" else single c

/-- Passes over blanks and comments where they do not count. -/
def skipBlanks : (left : Nat) → Reader Unit
  | 0 => return ()
  | left + 1 => do
    if (← get).flags.skipsBlanks then
      let blanks ← takeWhile Char.isWhitespace
      if (← get).rest.head? = some '#' then
        let _ ← takeWhile (· != '\n')
        skipBlanks left
      else if blanks.isEmpty then return ()
      else skipBlanks left

/-- Reads octets that stand for themselves up to the mark that ends them, in front of the pieces so
far, which come in reverse. -/
def quoted : (left : Nat) → List Expression → Reader (List Expression)
  | 0, _ => refuse "regular expression is too large"
  | left + 1, pieces => do
    if ← accept "\\E" then return pieces
    match (← get).rest with
    | [] => return pieces
    | c :: rest =>
      modify fun reading ↦ { reading with rest }
      quoted left ((← single c) :: pieces)

/-- The opposite of a condition about what comes before or after. -/
def opposite : Expression → Expression
  | .ahead isNegated body => .ahead (!isNegated) body
  | .behind isNegated body => .behind (!isNegated) body
  | other => other

mutual

/-- Reads alternatives; the flags that they change are as before after them. -/
def alternatives : (left : Nat) → Reader Expression
  | 0 => refuse "regular expression is too large"
  | left + 1 => do
    let first ← branch left []
    if ← accept "|" then return .either first (← alternatives left) else return first

/-- Reads what follows one after the other; the pieces so far come in reverse. -/
def branch : (left : Nat) → List Expression → Reader Expression
  | 0, _ => refuse "regular expression is too large"
  | left + 1, pieces => do
    skipBlanks left
    match (← get).rest with
    | [] | '|' :: _ | ')' :: _ => return Expression.ofPieces pieces.reverse
    | '\\' :: 'Q' :: rest =>
      modify fun reading ↦ { reading with rest }
      match ← quoted left pieces with
      | [] => branch left []
      | last :: pieces => branch left ((← repetitions left last) :: pieces)
    | '\\' :: 'E' :: rest =>
      modify fun reading ↦ { reading with rest }
      branch left pieces
    | _ =>
      let piece ← piece left
      skipBlanks left
      let piece ← repetitions left piece
      branch left (piece :: pieces)

/-- Reads a piece without its repetitions. -/
def piece : (left : Nat) → Reader Expression
  | 0 => refuse "regular expression is too large"
  | left + 1 => do
    let reading ← get
    let flags := reading.flags
    match reading.rest with
    | [] => return .nothing
    | ['\\'] => refuse "\\ at end of pattern"
    | '\\' :: c :: rest =>
      set { reading with rest }
      escape c
    | '(' :: '?' :: rest =>
      set { reading with rest }
      special left
    | '(' :: rest =>
      set { reading with rest, groups := reading.groups + 1 }
      captured left (reading.groups + 1)
    | c :: rest =>
      set { reading with rest }
      match c with
      | '.' => return if flags.dotTakesAll then .any else .oneOf true [('\n', '\n')]
      | '[' => brackets
      | '^' => return .edge (if flags.isLinewise then .lineStart else .textStart)
      | '$' => return .edge (if flags.isLinewise then .lineEnd else .textEnd)
      | '*' | '+' | '?' => refuse "quantifier does not follow a repeatable item"
      | c => single c

/-- Reads a group up to its closing parenthesis. -/
def inside : (left : Nat) → Reader Expression
  | 0 => refuse "regular expression is too large"
  | left + 1 => do
    let flags := (← get).flags
    let body ← alternatives left
    if !(← accept ")") then refuse "missing closing parenthesis"
    modify fun reading ↦ { reading with flags }
    return body

/-- Reads a group that is remembered under a number. -/
def captured : (left : Nat) → (number : Nat) → Reader Expression
  | 0, _ => refuse "regular expression is too large"
  | left + 1, number => return .group number false (← inside left)

/-- Reads a group that is remembered under a name too, up to the mark that ends the name. -/
def named : (left : Nat) → (mark : Char) → Reader Expression
  | 0, _ => refuse "regular expression is too large"
  | left + 1, mark => do
    let start := (← get).rest.head?
    if start.any Char.isDigit then refuse "subpattern name must start with a non-digit"
    if start.all fun c ↦ !c.isAlphanum && c != '_' then refuse "subpattern name expected"
    let name ← upTo mark
    let number := (← get).groups + 1
    if ((← get).names.lookup name).isSome then
      refuse "two named subpatterns have the same name (PCRE2_DUPNAMES not set)"
    modify fun reading ↦
      { reading with groups := number, names := (name, number) :: reading.names }
    captured left number

/-- Reads a group of a special kind, after its question mark. -/
def special : (left : Nat) → Reader Expression
  | 0 => refuse "regular expression is too large"
  | left + 1 => do
    if ← accept ":" then inside left
    else if ← accept "=" then return .ahead false (← inside left)
    else if ← accept "!" then return .ahead true (← inside left)
    else if ← accept "<=" then return .behind false (← fixed (← inside left))
    else if ← accept "<!" then return .behind true (← fixed (← inside left))
    else if ← accept ">" then return .settled (← inside left)
    else if ← accept "|" then inside left
    else if ← accept "#" then
      let _ ← upTo ')'
      return .nothing
    else if ← accept "P<" then named left '>'
    else if ← accept "<" then named left '>'
    else if ← accept "\x27" then named left '\x27'
    else if ← accept "P=" then again (← groupNamed (← upTo ')'))
    else if ← accept "(?" then
      let condition ← special left
      match ← inside left with
      | .either yes no =>
        return .either (.sequence condition yes) (.sequence (opposite condition) no)
      | yes => return .either (.sequence condition yes) (opposite condition)
    else if ← accept "(" then
      let name ← upTo ')'
      let number ←
        if name.all Char.isDigit then pure (Text.digitsValue 10 name)
        else groupNamed (name.filter fun c ↦ c.isAlphanum || c == '_')
      let body ← inside left
      match body with
      | .either yes no => return .given number yes no
      | yes => return .given number yes .nothing
    else
      let flags := (← get).flags
      match ← changeFlags left true with
      | ':' =>
        let body ← inside left
        modify fun reading ↦ { reading with flags }
        return body
      | _ => return .nothing

end

/-- Reads an expression; `isLinewise` where the text may have several lines. -/
def read (folds isLinewise : Bool) (text : Octets) : Except SearchFault Expression := do
  let start : Reading := ⟨text, 0, [], ⟨folds, isLinewise, false, false⟩⟩
  let (expression, reading) ← (alternatives (6 * (text.length + 2))).run start
  if !reading.rest.isEmpty then throw (.other "unmatched closing parenthesis")
  else if reading.groups < lastAgain expression then
    throw (.other "reference to non-existent subpattern")
  else return expression

/-- Reads what is to be searched for. -/
def sought (folds isLinewise : Bool) (text : Octets) : Except SearchFault Sought := do
  return Sought.of (← read folds isLinewise text) true

end Perl

end Scaffold.Shell
