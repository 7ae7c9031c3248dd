import Scaffold.Shell.Decimal

/-!
# Tokens of programs for records

A program is read token by token (`Scanner.tokens`). What a sign means hangs on what comes before: a
slash after a value divides, and begins an expression elsewhere; after `print` a greater-than sign
outside parentheses tells where the output goes. A brace that closes ends the statement before it.
-/

set_option autoImplicit false

namespace Scaffold.Shell.Awk

open Text (Octets)

/-- A token. -/
inductive TokenKind
  /-- A sign. -/
  | sign (text : String)
  | newline
  /-- The end of a statement that a closing brace brings. -/
  | implied
  | finish
  | number (value : Float) (shown : Octets)
  | text (octets : Octets)
  | pattern (octets : Octets)
  | name (name : String)
  /-- The name of a function of the program. -/
  | routine (name : String)
  | builtin (name : String)
  | keyword (word : String)
  /-- A sign that tells where output goes. -/
  | output (text : String)
  /-- A closing sign without an opening one. -/
  | extra (c : Char)
  /-- Nothing can be read here; this is the whole message. -/
  | broken (message : Octets)

/-- A token with its line, and how many parentheses and braces are open before it. -/
structure Token where
  kind : TokenKind
  line : Nat
  parentheses : Nat
  braces : Nat

namespace TokenKind

/-- The token is a sign. -/
def isSign (kind : TokenKind) (text : String) : Bool :=
  match kind with
  | .sign other => other == text
  | _ => false

/-- A value may end with the token. -/
def endsValue : TokenKind → Bool
  | .number _ _ | .text _ | .pattern _ | .name _ | .builtin _ => true
  | .sign mark => [")", "]", "++", "--", "$"].contains mark
  | _ => false

/-- The token in a message. -/
def shown : TokenKind → Octets
  | .sign mark | .output mark => mark.toList
  | .newline => "end of line".toList
  | .implied => ['\x7d']
  | .finish => "end of file".toList
  | .number _ shown => shown
  | .text octets => octets
  | .pattern octets => '/' :: octets ++ ['/']
  | .name word | .routine word | .builtin word | .keyword word => word.toList
  | .extra c => [c]
  | .broken message => message

end TokenKind

/-- The reading of a program: what is left, the line, the token before, whether a statement that
prints goes on, the open parentheses and braces, and the functions that were named. -/
structure Scanner where
  rest : Octets
  line : Nat
  last : TokenKind
  prints : Bool
  parentheses : Nat
  braces : Nat
  routines : List String

namespace Scanner

/-- Words with a meaning of their own. -/
def keywords : List String :=
  ["BEGIN", "END", "break", "continue", "delete", "do", "else", "exit", "for", "function",
    "getline", "if", "in", "next", "nextfile", "print", "printf", "return", "while"]

/-- The functions that are there. -/
def builtins : List String :=
  ["atan2", "close", "cos", "exp", "fflush", "gsub", "index", "int", "length", "log", "match",
    "mktime", "rand", "sin", "split", "sprintf", "sqrt", "srand", "strftime", "sub", "substr",
    "system", "systime", "tolower", "toupper"]

/-- Signs of several octets, longer ones first. -/
def longSigns : List String :=
  ["&&", "||", "==", "!=", "<=", ">=", "++", "--", "+=", "-=", "*=", "/=", "%=", "^=", "!~", ">>"]

/-- Signs of one octet. -/
def shortSigns : List Char :=
  "\x7b\x7d()[];,+-*/%^!><|?:~$=".toList

/-- Blanks inside a line. -/
def isBlank (c : Char) : Bool :=
  c == ' ' || c == '\t' || c == '\r' || c == '\x0b' || c == '\x0c'

/-- What follows blanks, comments and joined lines; lines as well if `passesLines`. The number of
ends of lines that were passed is counted. -/
def skip (passesLines : Bool) : (left : Nat) → (lines : Nat) → Octets → Nat × Octets
  | 0, lines, text => (lines, text)
  | left + 1, lines, text =>
    match text with
    | '\\' :: '\n' :: rest => skip passesLines left (lines + 1) rest
    | '\\' :: '\r' :: '\n' :: rest => skip passesLines left (lines + 1) rest
    | '#' :: rest => skip passesLines left lines (rest.dropWhile (· != '\n'))
    | '\n' :: rest =>
      if passesLines then skip passesLines left (lines + 1) rest else (lines, text)
    | c :: rest => if isBlank c then skip passesLines left lines rest else (lines, text)
    | [] => (lines, [])

/-- The scanner after blanks. -/
def pass (scanner : Scanner) (passesLines : Bool) : Scanner :=
  let (lines, rest) := skip passesLines (scanner.rest.length + 1) 0 scanner.rest
  { scanner with rest, line := scanner.line + lines }

/-- The octets of a text in quotes up to the closing one, and what follows; none if there is none in
the line. -/
def quoted? : (left : Nat) → Octets → Option (Octets × Octets)
  | 0, _ | _ + 1, [] => none
  | left + 1, c :: rest =>
    if c = '\x22' then some ([], rest)
    else if c = '\n' then none
    else if c = '\\' then
      match rest with
      | [] => none
      | '\n' :: rest => quoted? left rest
      | next :: after =>
        let octal := ((next :: after).take 3).takeWhile Number.isOctal
        let hexadecimal :=
          if next = 'x' then (after.take 2).takeWhile Number.isHexadecimal else []
        let known := [('\x22', '\x22'), ('\\', '\\'), ('a', '\x07'), ('b', '\x08'),
          ('f', '\x0c'), ('n', '\n'), ('r', '\r'), ('t', '\t'), ('v', '\x0b')]
        let (octets, rest) : Octets × Octets :=
          if !octal.isEmpty then
            ([Char.ofNat (Text.digitsValue 8 octal % 256)], rest.drop octal.length)
          else if !hexadecimal.isEmpty then
            ([Char.ofNat (Text.digitsValue 16 hexadecimal)], after.drop hexadecimal.length)
          else
            match known.lookup next with
            | some c => ([c], after)
            | none => (['\\', next], after)
        (quoted? left rest).map fun (others, rest) ↦ (octets ++ others, rest)
    else (quoted? left rest).map fun (others, rest) ↦ (c :: others, rest)

/-- A text with its escapes read as in a program. -/
def unescaped (text : Octets) : Octets :=
  let rec go : (left : Nat) → Octets → Octets
    | 0, text => text
    | _ + 1, [] => []
    | left + 1, text =>
      let plain := text.takeWhile fun c ↦ c != '\x22' && c != '\n' && c != '\\'
      match text.drop plain.length with
      | '\\' :: rest =>
        if rest.isEmpty then text
        else
          let count :=
            let octal := (rest.take 3).takeWhile Number.isOctal
            if !octal.isEmpty then octal.length
            else if rest.head? = some 'x' then
              1 + ((rest.drop 1).take 2 |>.takeWhile Number.isHexadecimal).length
            else 1
          let unit := '\\' :: rest.take count
          let octets := ((quoted? (unit.length + 2) (unit ++ ['\x22'])).map (·.1)).getD unit
          plain ++ octets ++ go left (rest.drop count)
      | c :: rest => plain ++ c :: go left rest
      | [] => plain
  go (text.length + 1) text

/-- The octets of an expression up to the closing slash, and what follows; none if there is none in
the line. -/
def slashed? : (left : Nat) → (isInBrackets : Bool) → Octets → Option (Octets × Octets)
  | 0, _, _ | _ + 1, _, [] => none
  | left + 1, isInBrackets, c :: rest =>
    if c = '\n' then none
    else if c = '/' ∧ !isInBrackets then some ([], rest)
    else if c = '\\' then
      match rest with
      | [] => none
      | '\n' :: rest => slashed? left isInBrackets rest
      | '/' :: rest =>
        (slashed? left isInBrackets rest).map fun (others, rest) ↦ ('/' :: others, rest)
      | next :: rest =>
        (slashed? left isInBrackets rest).map fun (others, rest) ↦ ('\\' :: next :: others, rest)
    else if c = '[' then
      if isInBrackets then
        if rest.head? = some ':' then
          -- The name of a class goes on up to its own end.
          let name := (rest.drop 1).takeWhile fun c ↦ c != ':' && c != '\n'
          let unit := '[' :: ':' :: name ++ [':', ']']
          if unit.isPrefixOf (c :: rest) then
            (slashed? left true (rest.drop (unit.length - 1))).map fun (others, rest) ↦
              (unit ++ others, rest)
          else none
        else (slashed? left true rest).map fun (others, rest) ↦ (c :: others, rest)
      else
        let (lead, rest) : Octets × Octets :=
          match rest with
          | '^' :: ']' :: rest => (['[', '^', ']'], rest)
          | '^' :: rest => (['[', '^'], rest)
          | ']' :: rest => (['[', ']'], rest)
          | rest => (['['], rest)
        (slashed? left true rest).map fun (others, rest) ↦ (lead ++ others, rest)
    else
      let isInBrackets := isInBrackets && c != ']'
      (slashed? left isInBrackets rest).map fun (others, rest) ↦ (c :: others, rest)

/-- The number at the front of a text that begins with a digit or a point, and what follows it. -/
def number (text : Octets) : Float × Octets × Octets :=
  let whole := text.takeWhile Char.isDigit
  let after := text.drop whole.length
  let fraction := if after.head? = some '.' then (after.drop 1).takeWhile Char.isDigit else []
  let count := whole.length + (if after.head? = some '.' then fraction.length + 1 else 0)
  let (power, rest) := Decimal.exponent (text.drop count)
  let shown := text.take (text.length - rest.length)
  let scale : Int := power - fraction.length
  (Float.ofScientific (Text.digitsValue 10 (whole ++ fraction)) (scale < 0) scale.natAbs, shown,
    rest)

/-- An octet of a name. -/
def isNameOctet (c : Char) : Bool :=
  c.isAlphanum || c == '_'

/-- The scanner after a token with what follows it. -/
def put (scanner : Scanner) (kind : TokenKind) (rest : Octets) : Token × Scanner :=
  (⟨kind, scanner.line, scanner.parentheses, scanner.braces⟩, { scanner with last := kind, rest })

/-- Reads a word. -/
def word (scanner : Scanner) : Token × Scanner :=
  let name := scanner.rest.takeWhile isNameOctet
  let rest := scanner.rest.drop name.length
  let text := String.ofList name
  if keywords.contains text then
    let (token, scanner) := scanner.put (.keyword text) rest
    if text = "print" ∨ text = "printf" then
      (token, { scanner with prints := true, parentheses := 0 })
    else if text = "do" ∨ text = "else" then (token, scanner.pass true)
    else (token, scanner)
  else if builtins.contains text then scanner.put (.builtin text) rest
  else
    let isNamed := match scanner.last with
      | .keyword "function" => true
      | _ => false
    if isNamed then
      let (token, scanner) := scanner.put (.routine text) rest
      (token, { scanner with routines := text :: scanner.routines })
    else if rest.head? = some '(' ∨ scanner.routines.contains text then
      scanner.put (.routine text) rest
    else scanner.put (.name text) rest

/-- Passes a semicolon after a rule. -/
def passSemicolon (scanner : Scanner) : Scanner :=
  let after := scanner.pass false
  match after.rest with
  | ';' :: rest => { after with rest }
  | _ => scanner

/-- Reads a sign. -/
def sign (scanner : Scanner) (c : Char) (rest : Octets) : Token × Scanner :=
  let text := String.singleton c
  let long? := longSigns.find? fun long ↦ long.toList.isPrefixOf (c :: rest)
  let isOutput := scanner.prints && scanner.parentheses = 0
  match c with
  | '\x7b' =>
    let (token, scanner) := scanner.put (.sign text) rest
    (token, { scanner with braces := scanner.braces + 1 }.pass true)
  | '\x7d' =>
    let isEnded := match scanner.last with
      | .newline | .implied => true
      | .sign last => last == ";" || last == "\x7d"
      | _ => false
    if scanner.braces = 0 then
      let (token, scanner) := scanner.put (.extra c) rest
      (token, scanner.passSemicolon)
    else if isEnded then
      let (token, scanner) := scanner.put (.sign text) rest
      let scanner := { scanner with braces := scanner.braces - 1, prints := false }
      let scanner := if scanner.braces = 0 then scanner.passSemicolon else scanner
      (token, scanner.pass true)
    else
      let (token, scanner) := scanner.put .implied scanner.rest
      (token, { scanner with prints := false })
  | '(' =>
    scanner.put (.sign text) rest |> fun (token, scanner) ↦
      (token, { scanner with parentheses := scanner.parentheses + 1 })
  | ')' =>
    if scanner.parentheses = 0 then scanner.put (.extra c) rest
    else
      let scanner := { scanner with parentheses := scanner.parentheses - 1 }
      scanner.put (.sign text) rest
  | ';' =>
    let (token, scanner) := scanner.put (.sign text) rest
    (token, { scanner with prints := false }.pass true)
  | ',' =>
    let (token, scanner) := scanner.put (.sign text) rest
    (token, scanner.pass true)
  | '>' =>
    if isOutput then
      let isAppended := rest.head? == some '>'
      let (token, scanner) := scanner.put (.output (if isAppended then ">>" else ">"))
        (if isAppended then rest.drop 1 else rest)
      (token, { scanner with prints := false })
    else if rest.head? = some '=' then scanner.put (.sign ">=") (rest.drop 1)
    else scanner.put (.sign text) rest
  | '/' =>
    if scanner.last.endsValue then
      if rest.head? = some '=' then scanner.put (.sign "/=") (rest.drop 1)
      else scanner.put (.sign text) rest
    else
      match slashed? (rest.length + 1) false rest with
      | some (octets, rest) => scanner.put (.pattern octets) rest
      | none =>
        let shown := (rest.takeWhile (· != '\n')).take 10
        let message := "line ".toList ++ Number.digits 10 scanner.line ++
          ": runaway regular expression /".toList ++ shown ++ " ...".toList
        scanner.put (.broken message) []
  | _ =>
    match long? with
    | some long =>
      let (token, scanner) := scanner.put (.sign long) (rest.drop (long.length - 1))
      if long = "&&" ∨ long = "||" then (token, scanner.pass true) else (token, scanner)
    | none =>
      if c = '|' ∧ isOutput then
        let (token, scanner) := scanner.put (.output text) rest
        (token, { scanner with prints := false })
      else scanner.put (.sign text) rest

/-- Reads a token. -/
def next (scanner : Scanner) : Token × Scanner :=
  let scanner := scanner.pass false
  match scanner.rest with
  | [] => scanner.put .finish []
  | '\n' :: rest =>
    let (token, scanner) := scanner.put .newline rest
    (token, { scanner with line := scanner.line + 1, prints := false }.pass true)
  | c :: rest =>
    if c.isDigit || (c == '.' && rest.head?.any Char.isDigit) then
      let (value, shown, rest) := number scanner.rest
      scanner.put (.number value shown) rest
    else if c.isAlpha || c == '_' then scanner.word
    else if c = '\x22' then
      match quoted? (rest.length + 1) rest with
      | some (octets, rest) =>
        let lines := (scanner.rest.take (scanner.rest.length - rest.length)).count '\n'
        let (token, scanner) := scanner.put (.text octets) rest
        (token, { scanner with line := scanner.line + lines })
      | none =>
        let shown := (rest.takeWhile (· != '\n')).take 10
        let message := "line ".toList ++ Number.digits 10 scanner.line ++
          ": runaway string constant \x22".toList ++ shown ++ " ...".toList
        scanner.put (.broken message) []
    else if shortSigns.contains c ||
        longSigns.any (fun long ↦ long.toList.isPrefixOf (c :: rest)) then scanner.sign c rest
    else
      let message := Number.digits 10 scanner.line ++ ": unexpected character '".toList ++
        [c, '\x27']
      scanner.put (.broken message) []

/-- Reads all tokens up to the end; `left` bounds their number. -/
def all : (left : Nat) → Scanner → List Token
  | 0, _ => []
  | left + 1, scanner =>
    let (token, scanner) := scanner.next
    match token.kind with
    | .finish | .broken _ => [token]
    | _ => token :: all left scanner

/-- The tokens of a program. -/
def tokens (program : Octets) : List Token :=
  let scanner : Scanner := ⟨program, 1, .newline, false, 0, 0, []⟩
  all (2 * program.length + 2) (scanner.pass true)

end Scanner

end Scaffold.Shell.Awk
