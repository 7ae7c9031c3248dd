import Scaffold.Shell.Number
import Scaffold.Shell.Search.Bracket

/-!
# Reading expressions

The forms in which utilities read expressions differ in which marks need a backslash to have their
meaning, and in what they make of a mark where it has none (`Dialect`). `Dialect.read` reads a text
in such a form.
-/

set_option autoImplicit false

namespace Scaffold.Shell

open Text (Octets)

/-- A form of expressions. -/
structure Dialect where
  /-- Parentheses and bars have their meaning without a backslash. -/
  bareGroups : Bool
  /-- So do the plus sign and the question mark. -/
  bareSigns : Bool
  /-- So do braces. -/
  bareBraces : Bool
  hasBraces : Bool
  /-- Brackets may hold the names of classes. -/
  hasClasses : Bool
  /-- The marks for the ends of a line have their meaning everywhere. -/
  anchorsAnywhere : Bool
  /-- A repetition of nothing is passed over, and does not stand for itself. -/
  signsAnywhere : Bool
  refusesLoneSigns : Bool
  refusesDoubleSigns : Bool
  /-- Braces with something else inside stand for themselves. -/
  allowsOpenBraces : Bool
  /-- A closing parenthesis without an opening one stands for itself. -/
  allowsLoneCloses : Bool
  /-- A newline is not any octet. -/
  sparesNewlines : Bool
  /-- The marks for the ends of a line stand at each newline. -/
  isLinewise : Bool

namespace Dialect

/-- The basic form. -/
def basic : Dialect where
  bareGroups := false
  bareSigns := false
  bareBraces := false
  hasBraces := true
  hasClasses := true
  anchorsAnywhere := false
  signsAnywhere := false
  refusesLoneSigns := false
  refusesDoubleSigns := true
  allowsOpenBraces := false
  allowsLoneCloses := false
  sparesNewlines := false
  isLinewise := false

/-- The extended form. -/
def extended : Dialect :=
  { basic with
    bareGroups := true, bareSigns := true, bareBraces := true, anchorsAnywhere := true
    signsAnywhere := true, refusesLoneSigns := true, refusesDoubleSigns := false }

/-- The basic form without its strictness. -/
def looseBasic : Dialect :=
  { basic with refusesDoubleSigns := false }

/-- The extended form without its strictness. -/
def looseExtended : Dialect :=
  { extended with refusesLoneSigns := false, allowsOpenBraces := true, allowsLoneCloses := true }

/-- The form of an editor with a language of its own. -/
def editor : Dialect :=
  { basic with
    bareSigns := true, hasBraces := false, hasClasses := false, refusesDoubleSigns := false }

/-- The form where each newline ends a line. -/
def linewise (dialect : Dialect) : Dialect :=
  { dialect with sparesNewlines := true, isLinewise := true }

end Dialect

/-- A token of an expression. -/
inductive SearchToken
  | octet (c : Char)
  | any
  | bracket
  | opening
  | closing
  | bar
  | star
  | plus
  | question
  | openBrace
  | closeBrace
  | again (number : Nat)
  | edge (kind : Anchor)
  | classOf (isNegated : Bool) (ranges : List (Char × Char))
  | backslash
  | finish
  deriving DecidableEq, Repr

namespace SearchToken

/-- The token of an octet after a backslash. -/
def ofEscape (dialect : Dialect) (c : Char) : SearchToken :=
  match c with
  | '|' => if dialect.bareGroups then octet c else bar
  | '(' => if dialect.bareGroups then octet c else opening
  | ')' => if dialect.bareGroups then octet c else closing
  | '+' => if dialect.bareSigns then octet c else plus
  | '?' => if dialect.bareSigns then octet c else question
  | '\x7b' => if dialect.hasBraces && !dialect.bareBraces then openBrace else octet c
  | '\x7d' => if dialect.hasBraces && !dialect.bareBraces then closeBrace else octet c
  | '<' => edge .wordStart
  | '>' => edge .wordEnd
  | 'b' => edge .word
  | 'B' => edge .noWord
  | '\x60' => edge .textStart
  | '\x27' => edge .textEnd
  | 'w' => classOf false (('_', '_') :: Step.classRanges "alnum")
  | 'W' => classOf true (('_', '_') :: Step.classRanges "alnum")
  | 's' => classOf false (Step.classRanges "space")
  | 'S' => classOf true (Step.classRanges "space")
  | c => if '1' ≤ c && c ≤ '9' then again (c.toNat - 48) else octet c

/-- The next thing is a bar or a closing parenthesis. -/
def endsBranch (dialect : Dialect) (rest : Octets) : Bool :=
  if dialect.bareGroups then rest.head? == some '|' || rest.head? == some ')'
  else ['\\', '|'].isPrefixOf rest || ['\\', ')'].isPrefixOf rest

/-- The token that a text begins with, and what follows. `isStart` at the start of a branch. -/
def read (dialect : Dialect) (isStart : Bool) (text : Octets) : SearchToken × Octets :=
  match text with
  | [] => (finish, [])
  | ['\\'] => (backslash, [])
  | '\\' :: c :: rest => (ofEscape dialect c, rest)
  | c :: rest =>
    let token :=
      match c with
      | '|' => if dialect.bareGroups then bar else octet c
      | '(' => if dialect.bareGroups then opening else octet c
      | ')' => if dialect.bareGroups then closing else octet c
      | '*' => star
      | '+' => if dialect.bareSigns then plus else octet c
      | '?' => if dialect.bareSigns then question else octet c
      | '\x7b' => if dialect.hasBraces && dialect.bareBraces then openBrace else octet c
      | '\x7d' => if dialect.hasBraces && dialect.bareBraces then closeBrace else octet c
      | '[' => bracket
      | '.' => any
      | '^' =>
        if dialect.anchorsAnywhere || isStart then
          edge (if dialect.isLinewise then .lineStart else .textStart)
        else octet c
      | '$' =>
        if dialect.anchorsAnywhere || rest.isEmpty || endsBranch dialect rest then
          edge (if dialect.isLinewise then .lineEnd else .textEnd)
        else octet c
      | c => octet c
    (token, rest)

/-- The octet that a token is written with, where it stands for itself. -/
def self : SearchToken → Char
  | star => '*'
  | plus => '+'
  | question => '?'
  | openBrace => '\x7b'
  | closeBrace => '\x7d'
  | closing => ')'
  | octet c => c
  | _ => ' '

end SearchToken

/-- Where the reading of an expression stands: the token at hand, what follows it, how many groups
were opened, which are complete, whether a class lacks its brackets, and which repetitions had
nothing to repeat, the last one first. -/
structure SearchReading where
  token : SearchToken
  rest : Octets
  groups : Nat
  complete : List Nat
  hasBareClass : Bool
  loneSigns : List SearchToken

namespace Expression

/-- Expressions one after the other. -/
def ofPieces : List Expression → Expression
  | [] => nothing
  | [only] => only
  | nothing :: rest => ofPieces rest
  | piece :: rest =>
    match ofPieces rest with
    | nothing => piece
    | rest => sequence piece rest

/-- An expression so many times. Of a group the rounds that need not be there are optional. -/
def times (least : Nat) (most : Option Nat) (body : Expression) : Expression :=
  match body with
  | nothing => nothing
  | group number _ inner =>
    if most == some 0 then nothing
    else if least = 0 then repeated (group number true inner) 0 most false
    else if most == some least then repeated body least most false
    else
      sequence (repeated body least (some least) false)
        (repeated (group number true inner) 0 (most.map (· - least)) false)
  | body => if most == some 0 then nothing else repeated body least most false

/-- One expression or another; one that is left out comes last. -/
def orElse (first second : Expression) : Expression :=
  match first with
  | nothing => either second nothing
  | first => either first second

end Expression

namespace Dialect

/-- A part of the reading of an expression. -/
abbrev Reader := StateT SearchReading (Except SearchFault)

/-- The most times that braces may ask for. -/
def mostTimes : Nat := 32767

/-- Goes on to the next token. -/
def fetch (dialect : Dialect) (isStart : Bool) : Reader Unit :=
  modify fun reading ↦
    let (token, rest) := SearchToken.read dialect isStart reading.rest
    { reading with token, rest }

/-- A bound in braces, and the token that ended it: none if there is none, and `some none` for what
is no number. -/
def bound (dialect : Dialect) : (left : Nat) → Option (Option Nat) → Reader (Option (Option Nat))
  | 0, _ => throw .tooBig
  | left + 1, found => do
    dialect.fetch false
    match (← get).token with
    | .finish => return some none
    | .closeBrace | .octet ',' => return found
    | .octet c =>
      bound dialect left <|
        if !c.isDigit || found == some none then some none
        else
          let value := (found.bind id).getD 0
          some (some (min (mostTimes + 1) (value * 10 + (c.toNat - 48))))
    | _ => bound dialect left (some none)

/-- Reads bounds after an opening brace, up to the closing one; none if there is something else and
that is allowed. -/
def bounds (dialect : Dialect) : Reader (Option (Nat × Option Nat)) := do
  let before ← get
  let left := before.rest.length + 2
  let isComma (reading : SearchReading) : Bool := reading.token == .octet ','
  let first ← bound dialect left none
  if first.isNone && !isComma (← get) then throw .badBrace
  let isRead := first != some none
  let least := (first.bind id).getD 0
  let second ←
    if !isRead then pure (some none)
    else if (← get).token == .closeBrace then pure (some (some least))
    else if isComma (← get) then bound dialect left none
    else pure (some none)
  if second == some none then
    if dialect.allowsOpenBraces then
      set before
      return none
    else throw (if (← get).token == .finish then .openBrace else .badBrace)
  else
    let most := second.bind id
    if most.any (· < least) || (← get).token != .closeBrace then throw .badBrace
    if mostTimes < most.getD least then throw .tooBig
    return some (least, most)

/-- Notes that a repetition has nothing to repeat. -/
def noteLoneSign (token : SearchToken) : Reader Unit :=
  modify fun reading ↦ { reading with loneSigns := token :: reading.loneSigns }

mutual

/-- Reads alternatives, be they inside a group or not. -/
def alternatives (dialect : Dialect) (isInside : Bool) : (left : Nat) → Reader Expression
  | 0 => throw .tooBig
  | left + 1 => do
    let before := (← get).complete
    let first ← branch dialect isInside left []
    moreAlternatives dialect isInside before left first

/-- Reads further alternatives after some. In each of them the groups count that were complete
`before`. -/
def moreAlternatives (dialect : Dialect) (isInside : Bool) (before : List Nat) : (left : Nat) →
    Expression → Reader Expression
  | 0, _ => throw .tooBig
  | left + 1, first => do
    if (← get).token == .bar then
      dialect.fetch true
      let known := (← get).complete
      modify fun reading ↦ { reading with complete := before }
      let second ← branch dialect isInside left []
      modify fun reading ↦ { reading with complete := reading.complete ++ known }
      moreAlternatives dialect isInside before left (first.orElse second)
    else return first

/-- Reads what follows one after the other; the pieces so far come in reverse. -/
def branch (dialect : Dialect) (isInside : Bool) :
    (left : Nat) → List Expression → Reader Expression
  | 0, _ => throw .tooBig
  | left + 1, pieces => do
    match (← get).token with
    | .bar | .finish => return Expression.ofPieces pieces.reverse
    | .closing =>
      if !isInside then
        let piece ← piece dialect isInside left
        branch dialect isInside left (piece :: pieces)
      else return Expression.ofPieces pieces.reverse
    | _ =>
      let piece ← piece dialect isInside left
      branch dialect isInside left (piece :: pieces)

/-- Reads a piece with its repetitions. -/
def piece (dialect : Dialect) (isInside : Bool) : (left : Nat) → Reader Expression
  | 0 => throw .tooBig
  | left + 1 => do
    let reading ← get
    match reading.token with
    | .bar | .finish => return .nothing
    | .backslash => throw .loneBackslash
    | .edge kind =>
      dialect.fetch false
      return .edge kind
    | .star | .plus | .question | .openBrace =>
      if reading.token == .openBrace && dialect.refusesDoubleSigns then throw .badRepeat
      else if dialect.refusesLoneSigns then throw .badRepeat
      else if reading.token == .openBrace && dialect.allowsOpenBraces then
        match ← bounds dialect with
        | some _ =>
          noteLoneSign .openBrace
          dialect.fetch false
          piece dialect isInside left
        | none =>
          dialect.fetch false
          repetitions dialect left (.octet '\x7b')
      else if dialect.signsAnywhere then
        noteLoneSign reading.token
        dialect.fetch false
        piece dialect isInside left
      else
        dialect.fetch false
        repetitions dialect left (.octet reading.token.self)
    | .closing =>
      if dialect.allowsLoneCloses then
        dialect.fetch false
        repetitions dialect left (.octet ')')
      else throw .loneClose
    | .opening =>
      let number := reading.groups + 1
      set { reading with groups := number }
      dialect.fetch true
      let body ←
        if (← get).token == .closing then pure Expression.nothing
        else alternatives dialect true left
      if (← get).token != .closing then throw .openGroup
      modify fun reading ↦ { reading with complete := number :: reading.complete }
      dialect.fetch false
      repetitions dialect left (.group number false body)
    | .bracket =>
      let (found, rest) ← Bracket.read? dialect.hasClasses reading.rest
      let newline := if found.isNegated && dialect.sparesNewlines then [('\n', '\n')] else []
      set { reading with rest, hasBareClass := reading.hasBareClass || found.isBareClass }
      dialect.fetch false
      repetitions dialect left (.oneOf found.isNegated (newline ++ found.ranges))
    | .again number =>
      if !reading.complete.contains number then throw .badAgain
      dialect.fetch false
      repetitions dialect left (.again number false)
    | .any =>
      dialect.fetch false
      repetitions dialect left (if dialect.sparesNewlines then .oneOf true [('\n', '\n')] else .any)
    | .classOf isNegated ranges =>
      dialect.fetch false
      repetitions dialect left (.oneOf isNegated ranges)
    | .octet _ | .closeBrace =>
      dialect.fetch false
      repetitions dialect left (.octet reading.token.self)

/-- Reads the repetitions after a piece. -/
def repetitions (dialect : Dialect) : (left : Nat) → Expression → Reader Expression
  | 0, _ => throw .tooBig
  | left + 1, body => do
    let again (body : Expression) : Reader Expression := do
      let token := (← get).token
      if dialect.refusesDoubleSigns && (token == .star || token == .openBrace) then
        throw .badRepeat
      repetitions dialect left body
    match (← get).token with
    | .star =>
      dialect.fetch false
      again (body.times 0 none)
    | .plus =>
      dialect.fetch false
      again (body.times 1 none)
    | .question =>
      dialect.fetch false
      again (body.times 0 (some 1))
    | .openBrace =>
      match ← bounds dialect with
      | some (least, most) =>
        dialect.fetch false
        again (body.times least most)
      | none =>
        dialect.fetch false
        let rest ← repetitions dialect left (.octet '\x7b')
        return Expression.ofPieces [body, rest]
    | _ => return body

end

/-- Reads an expression, and tells which repetitions had nothing to repeat. -/
def readNoting (dialect : Dialect) (text : Octets) :
    Except SearchFault (Expression × List SearchToken) := do
  let start : SearchReading := ⟨.finish, text, 0, [], false, []⟩
  let reader : Reader Expression := do
    dialect.fetch true
    alternatives dialect false (6 * (text.length + 2))
  let (expression, reading) ← reader.run start
  if reading.hasBareClass then throw .bareClass
  return (expression, reading.loneSigns.reverse)

/-- Reads an expression. -/
def read (dialect : Dialect) (text : Octets) : Except SearchFault Expression :=
  (dialect.readNoting text).map (·.1)

/-- Reads what is to be searched for. -/
def sought (dialect : Dialect) (folds : Bool) (text : Octets) : Except SearchFault Sought := do
  let expression ← dialect.read text
  return Sought.of (if folds then expression.folded else expression) false

end Dialect

end Scaffold.Shell
