import Scaffold.Text.Digits
import Scaffold.Text.Octets
import Scaffold.Yaml.Scalar

/-!
# Tokens of a YAML stream

A stream is read into tokens. Indentation becomes tokens that open and close block collections, and
a scalar that turns out to be the key of a mapping gets a key token in front of it when its colon is
met: until then it is a `KeyCandidate`, which must lie on one line and within 1024 octets.
-/

set_option autoImplicit false

namespace Scaffold.Yaml

/-- A token. Scalars tell whether they were plain. -/
inductive Token
  | versionDirective (major minor : Nat)
  | tagDirective (handle stem : String)
  | documentStart
  | documentEnd
  | blockSequenceStart
  | blockMappingStart
  | blockEnd
  | flowSequenceStart
  | flowSequenceEnd
  | flowMappingStart
  | flowMappingEnd
  | blockEntry
  | flowEntry
  | key
  | value
  | alias (name : String)
  | anchor (name : String)
  | tag (handle suffix : String)
  | scalar (text : String) (isPlain : Bool)
  deriving DecidableEq, Repr

/-- A token that may turn out to be a key: how many tokens come before it, whether it must be a key,
and where it starts. -/
structure KeyCandidate where
  position : Nat
  isRequired : Bool
  start : Cursor

/-- The candidate can no longer be a key at this position. -/
def KeyCandidate.isStale (candidate : KeyCandidate) (cursor : Cursor) : Bool :=
  candidate.start.line < cursor.line || candidate.start.index + 1024 < cursor.index

/-- The tokens so far, the last one first, and how many they are. -/
structure TokenLog where
  reversed : List Token
  count : Nat

namespace TokenLog

/-- No tokens. -/
def empty : TokenLog :=
  ⟨[], 0⟩

/-- Adds a token. -/
def push (log : TokenLog) (token : Token) : TokenLog :=
  ⟨token :: log.reversed, log.count + 1⟩

/-- Adds a token after the first `position` tokens. -/
def insertAt (log : TokenLog) (position : Nat) (token : Token) : TokenLog :=
  let later := log.count - position
  ⟨log.reversed.take later ++ token :: log.reversed.drop later, log.count + 1⟩

/-- The tokens in order. -/
def toList (log : TokenLog) : List Token :=
  log.reversed.reverse

end TokenLog

/-- The state of a scanner. `level` is one more than the column of the innermost block collection,
and zero outside all of them; `outer` are the levels around it. There is a candidate of the block
context, and one of each open bracket, innermost first. -/
structure Scanner where
  cursor : Cursor
  tokens : TokenLog
  level : Nat
  outer : List Nat
  blockCandidate : Option KeyCandidate
  flowCandidates : List (Option KeyCandidate)
  allowsKey : Bool

namespace Scanner

/-- The scanner at the start of a stream. -/
def start (text : String) : Scanner :=
  ⟨Cursor.start text, TokenLog.empty, 0, [], none, [], true⟩

/-- The scanner is inside brackets. -/
def inFlow (scanner : Scanner) : Bool :=
  !scanner.flowCandidates.isEmpty

/-- Adds a token. -/
def emit (scanner : Scanner) (token : Token) : Scanner :=
  { scanner with tokens := scanner.tokens.push token }

/-- Adds a token after the first `position` tokens. -/
def emitAt (scanner : Scanner) (position : Nat) (token : Token) : Scanner :=
  { scanner with tokens := scanner.tokens.insertAt position token }

/-- Moves the scanner. -/
def moveTo (scanner : Scanner) (cursor : Cursor) : Scanner :=
  { scanner with cursor }

/-- Sets whether a key may start here. -/
def allowKey (scanner : Scanner) (allowsKey : Bool) : Scanner :=
  { scanner with allowsKey }

/-! ### Key candidates -/

/-- The innermost candidate that can still be a key. -/
def candidate? (scanner : Scanner) : Option KeyCandidate :=
  let candidate :=
    match scanner.flowCandidates with
    | [] => scanner.blockCandidate
    | innermost :: _ => innermost
  candidate.filter fun candidate ↦ !candidate.isStale scanner.cursor

/-- Replaces the innermost candidate. -/
def setCandidate (scanner : Scanner) (candidate : Option KeyCandidate) : Scanner :=
  match scanner.flowCandidates with
  | [] => { scanner with blockCandidate := candidate }
  | _ :: outer => { scanner with flowCandidates := candidate :: outer }

/-- Forgets the innermost candidate; one that must be a key is refused. -/
def dropCandidate (scanner : Scanner) : Option Scanner :=
  if scanner.candidate?.any KeyCandidate.isRequired then none
  else some (scanner.setCandidate none)

/-- Notes that the next token may be a key. A key may be required outside brackets only. -/
def noteCandidate (scanner : Scanner) : Option Scanner :=
  if scanner.allowsKey then do
    let isRequired := !scanner.inFlow && scanner.level == scanner.cursor.column + 1
    let cleared ← scanner.dropCandidate
    return cleared.setCandidate (some ⟨scanner.tokens.count, isRequired, scanner.cursor⟩)
  else some scanner

/-- A candidate that must be a key is refused when it can no longer be one. -/
def checkRequired (scanner : Scanner) : Option Scanner :=
  let isLost := scanner.blockCandidate.any fun candidate ↦
    candidate.isRequired && candidate.isStale scanner.cursor
  if isLost then none else some scanner

/-! ### Indentation -/

/-- Opens a block collection at a column unless one is open there. -/
def openBlock (scanner : Scanner) (column position : Nat) (token : Token) : Scanner :=
  if !scanner.inFlow && scanner.level < column + 1 then
    { scanner.emitAt position token with
      level := column + 1, outer := scanner.level :: scanner.outer }
  else scanner

/-- Closes the block collections deeper than a level: `level` and `outer` are those still open. -/
def closeLevels (target : Nat) : (level : Nat) → (outer : List Nat) → TokenLog →
    Nat × List Nat × TokenLog
  | level, [], tokens => (level, [], tokens)
  | level, around :: outer, tokens =>
    if target < level then closeLevels target around outer (tokens.push .blockEnd)
    else (level, around :: outer, tokens)

/-- Closes the block collections deeper than a level, outside brackets. -/
def closeBlocks (scanner : Scanner) (target : Nat) : Scanner :=
  if scanner.inFlow then scanner
  else
    let (level, outer, tokens) := closeLevels target scanner.level scanner.outer scanner.tokens
    { scanner with level, outer, tokens }

/-! ### White space and comments -/

/-- Past white space, line ends and comments. -/
def skipGaps (inFlow : Bool) : Nat → (allowsKey : Bool) → Cursor → Bool × Cursor
  | 0, allowsKey, cursor => (allowsKey, cursor)
  | fuel + 1, allowsKey, cursor =>
    let cursor := if cursor.column == 0 && cursor.at_ byteOrderMark then cursor.skip else cursor
    let cursor := cursor.skipWhile fun c ↦ c == ' ' || ((inFlow || !allowsKey) && c == '\t')
    let cursor := cursor.skipComment
    if cursor.peek.any isBreak then
      skipGaps inFlow fuel (allowsKey || !inFlow) cursor.skipBreak
    else (allowsKey, cursor)

/-- Moves to the next token. -/
def toNextToken (scanner : Scanner) : Scanner :=
  let (allowsKey, cursor) :=
    skipGaps scanner.inFlow (scanner.cursor.left + 1) scanner.allowsKey scanner.cursor
  { scanner with allowsKey, cursor }

/-! ### Directives, anchors and tags -/

/-- The word at the cursor and the position after it. -/
def word (cursor : Cursor) : List Char × Cursor :=
  (cursor.rest.takeWhile isWordChar, cursor.skipWhile isWordChar)

/-- The number at the cursor, of at most nine digits. -/
def number? (cursor : Cursor) : Option (Nat × Cursor) :=
  let digits := cursor.rest.takeWhile Char.isDigit
  if digits.isEmpty || 9 < digits.length then none
  else
    some (Text.digitsValue 10 digits,
      cursor.skipMany digits.length)

/-- The numbers of a version directive. -/
def versionNumbers? (cursor : Cursor) : Option (Token × Cursor) := do
  let (major, dot) ← number? (cursor.skipWhile isSpace)
  if dot.at_ '.' then
    let (minor, stop) ← number? dot.skip
    return (.versionDirective major minor, stop)
  else none

/-- A character of a tag; brackets and commas only where `isVerbatim`. -/
def isTagChar (isVerbatim : Bool) (c : Char) : Bool :=
  isWordChar c || [';', '/', '?', ':', '@', '&', '=', '+', '$', '.', '!', '~', '*', '\x27', '(',
    ')'].contains c || (isVerbatim && [',', '[', ']'].contains c)

/-- The octets of a run of percent escapes. -/
def percentOctets : List Char → Text.Octets
  | '%' :: high :: low :: rest =>
    match hexDigit? high, hexDigit? low with
    | some first, some second => Char.ofNat (first * 16 + second) :: percentOctets rest
    | _, _ => []
  | _ => []

/-- The number of octets of a character that begins with this octet, as far as the octet itself
tells. -/
def octetCount? (octet : Char) : Option Nat :=
  if octet.toNat < 0x80 then some 1
  else if 0xC0 ≤ octet.toNat && octet.toNat < 0xE0 then some 2
  else if 0xE0 ≤ octet.toNat && octet.toNat < 0xF0 then some 3
  else if 0xF0 ≤ octet.toNat && octet.toNat < 0xF8 then some 4
  else none

/-- The octets of one character written as percent escapes. All after the first must continue it;
which character they make is not looked at. -/
def percentChar? (rest : List Char) : Option Text.Octets := do
  let octets := percentOctets rest
  let count ← octets.head?.bind octetCount?
  let continues (octet : Char) : Bool := 0x80 ≤ octet.toNat && octet.toNat < 0xC0
  if count ≤ octets.length && ((octets.take count).drop 1).all continues then
    return octets.take count
  else none

/-- Reads the characters of a tag. The octets so far are given in reverse. -/
def tagText (isVerbatim : Bool) : Nat → Text.Octets → Cursor → Option (Text.Octets × Cursor)
  | 0, text, cursor => some (text, cursor)
  | fuel + 1, text, cursor =>
    match cursor.peek with
    | some c =>
      if c == '%' then do
        let octets ← percentChar? cursor.rest
        tagText isVerbatim fuel (octets.reverse ++ text) (cursor.skipMany (3 * octets.length))
      else if isTagChar isVerbatim c then tagText isVerbatim fuel (c :: text) cursor.skip
      else some (text, cursor)
    | none => some (text, cursor)

/-- Reads the part of a tag after `head`, which must not leave the whole empty. What counts of it
ends before the first null octet. -/
def tagRest? (isVerbatim : Bool) (head : List Char) (cursor : Cursor) :
    Option (String × Cursor) := do
  let (text, stop) ← tagText isVerbatim cursor.left [] cursor
  let whole := head.tail ++ text.reverse
  if head.isEmpty && whole.isEmpty then none
  else some (Text.Octets.toText (whole.takeWhile (· != '\x00')), stop)

/-- Reads the handle at the start of a tag: an exclamation mark, a word, and another mark if there
is one. In a directive anything else than a lone mark must end with one. -/
def tagHandle? (inDirective : Bool) (cursor : Cursor) : Option (List Char × Cursor) :=
  if cursor.at_ '!' then
    let (name, stop) := word cursor.skip
    if stop.at_ '!' then some ('!' :: name ++ ['!'], stop.skip)
    else if inDirective && !name.isEmpty then none
    else some ('!' :: name, stop)
  else none

/-- Reads the handle and the stem of a tag directive. -/
def tagNames? (cursor : Cursor) : Option (Token × Cursor) := do
  let (handle, afterHandle) ← tagHandle? true (cursor.skipWhile isSpace)
  if afterHandle.peek.any isSpace then
    let (stem, stop) ← tagRest? true [] (afterHandle.skipWhile isSpace)
    if isGap stop.peek then some (.tagDirective (String.ofList handle) stem, stop) else none
  else none

/-- Reads a directive and the rest of its line. -/
def directive? (cursor : Cursor) : Option (Token × Cursor) := do
  let (name, stop) := word cursor.skip
  if !isGap stop.peek then none
  else
    let (token, last) ←
      if name = ['Y', 'A', 'M', 'L'] then versionNumbers? stop
      else if name = ['T', 'A', 'G'] then tagNames? stop
      else none
    let last := (last.skipWhile isSpace).skipComment
    if last.peek.all isBreak then return (token, last.skipBreak) else none

/-- Reads the name of an anchor or alias. -/
def anchorName? (cursor : Cursor) : Option (String × Cursor) :=
  let (name, stop) := word cursor.skip
  let ends := isGap stop.peek || stop.peek.any fun c ↦
    ['?', ':', ',', ']', '}', '%', '@', '\x60'].contains c
  if name.isEmpty || !ends then none else some (String.ofList name, stop)

/-- Reads the handle and the suffix of a tag. -/
def tagParts? (cursor : Cursor) : Option (String × String × Cursor) :=
  if cursor.peekAt 1 = some '<' then do
    let (suffix, stop) ← tagRest? true [] (cursor.skipMany 2)
    if stop.at_ '>' then some ("", suffix, stop.skip) else none
  else do
    let (handle, afterHandle) ← tagHandle? false cursor
    if 1 < handle.length && handle.getLast? = some '!' then
      let (suffix, stop) ← tagRest? false [] afterHandle
      return (String.ofList handle, suffix, stop)
    else
      let (suffix, stop) ← tagRest? false handle afterHandle
      if suffix.isEmpty then return ("", "!", stop) else return ("!", suffix, stop)

/-! ### One token -/

/-- Starts anything that cannot be inside a block collection or a key. -/
def atDocumentLevel (scanner : Scanner) : Option Scanner :=
  ((scanner.closeBlocks 0).dropCandidate).map (·.allowKey false)

/-- Reads a directive. -/
def readDirective (scanner : Scanner) : Option Scanner := do
  let scanner ← scanner.atDocumentLevel
  let (token, stop) ← directive? scanner.cursor
  return (scanner.emit token).moveTo stop

/-- Reads a document marker. -/
def readMarker (scanner : Scanner) (token : Token) : Option Scanner := do
  let scanner ← scanner.atDocumentLevel
  return (scanner.emit token).moveTo (scanner.cursor.skipMany 3)

/-- Reads an opening bracket. -/
def readOpening (scanner : Scanner) (token : Token) : Option Scanner := do
  let scanner ← scanner.noteCandidate
  let opened := { scanner with flowCandidates := none :: scanner.flowCandidates }
  return ((opened.allowKey true).emit token).moveTo scanner.cursor.skip

/-- Reads a closing bracket. -/
def readClosing (scanner : Scanner) (token : Token) : Option Scanner := do
  let scanner ← scanner.dropCandidate
  let closed := { scanner with flowCandidates := scanner.flowCandidates.tail }
  return ((closed.allowKey false).emit token).moveTo scanner.cursor.skip

/-- Reads a comma between entries. -/
def readComma (scanner : Scanner) : Option Scanner := do
  let scanner ← scanner.dropCandidate
  return ((scanner.allowKey true).emit .flowEntry).moveTo scanner.cursor.skip

/-- Reads the mark of a block sequence entry. -/
def readEntry (scanner : Scanner) : Option Scanner := do
  if !scanner.inFlow && !scanner.allowsKey then none
  else
    let opened :=
      scanner.openBlock scanner.cursor.column scanner.tokens.count .blockSequenceStart
    let cleared ← opened.dropCandidate
    return ((cleared.allowKey true).emit .blockEntry).moveTo scanner.cursor.skip

/-- Reads the mark of an explicit key. -/
def readKey (scanner : Scanner) : Option Scanner := do
  if !scanner.inFlow && !scanner.allowsKey then none
  else
    let opened :=
      scanner.openBlock scanner.cursor.column scanner.tokens.count .blockMappingStart
    let cleared ← opened.dropCandidate
    return ((cleared.allowKey (!scanner.inFlow)).emit .key).moveTo scanner.cursor.skip

/-- Reads the colon before a value, which makes a key of the candidate if there is one. -/
def readValue (scanner : Scanner) : Option Scanner :=
  match scanner.candidate? with
  | some candidate =>
    let keyed := (scanner.emitAt candidate.position .key).setCandidate none
    let opened :=
      keyed.openBlock candidate.start.column candidate.position .blockMappingStart
    some (((opened.allowKey false).emit .value).moveTo scanner.cursor.skip)
  | none =>
    if !scanner.inFlow && !scanner.allowsKey then none
    else
      let opened :=
        scanner.openBlock scanner.cursor.column scanner.tokens.count .blockMappingStart
      some (((opened.allowKey (!scanner.inFlow)).emit .value).moveTo scanner.cursor.skip)

/-- Reads an anchor or an alias. -/
def readAnchor (scanner : Scanner) (token : String → Token) : Option Scanner := do
  let scanner ← scanner.noteCandidate
  let (name, stop) ← anchorName? scanner.cursor
  return ((scanner.allowKey false).emit (token name)).moveTo stop

/-- Reads a tag. -/
def readTag (scanner : Scanner) : Option Scanner := do
  let scanner ← scanner.noteCandidate
  let (handle, suffix, stop) ← tagParts? scanner.cursor
  if isGap stop.peek || (scanner.inFlow && stop.at_ ',') then
    return ((scanner.allowKey false).emit (.tag handle suffix)).moveTo stop
  else none

/-- Reads a block scalar. -/
def readBlockScalar (scanner : Scanner) (isLiteral : Bool) : Option Scanner := do
  let scanner ← scanner.dropCandidate
  let scanned ← blockScalar isLiteral scanner.level scanner.cursor
  return ((scanner.allowKey true).emit (.scalar scanned.text false)).moveTo scanned.cursor

/-- Reads a quoted scalar. -/
def readQuotedScalar (scanner : Scanner) (isSingle : Bool) : Option Scanner := do
  let scanner ← scanner.noteCandidate
  let scanned ← quotedScalar isSingle scanner.cursor
  return ((scanner.allowKey false).emit (.scalar scanned.text false)).moveTo scanned.cursor

/-- Reads a plain scalar. -/
def readPlainScalar (scanner : Scanner) : Option Scanner := do
  let scanner ← scanner.noteCandidate
  let scanned ← plainScalar scanner.inFlow scanner.level scanner.cursor
  return ((scanner.allowKey scanned.crossesLine).emit (.scalar scanned.text true)).moveTo
    scanned.cursor

/-- A character that cannot begin a plain scalar. -/
def isIndicator (c : Char) : Bool :=
  ['-', '?', ':', ',', '[', ']', '{', '}', '#', '&', '*', '!', '|', '>', '\x27', '\x22', '%', '@',
    '\x60'].contains c

/-- The character can begin a plain scalar here. -/
def startsPlain (scanner : Scanner) (c : Char) : Bool :=
  let next := scanner.cursor.peekAt 1
  !(isGap (some c) || isIndicator c) || (c == '-' && !next.any isSpace) ||
    (!scanner.inFlow && (c == '?' || c == ':') && !isGap next)

/-- Reads the token that begins with the character `c`. -/
def readToken (scanner : Scanner) (c : Char) : Option Scanner :=
  let cursor := scanner.cursor
  let inFlow := scanner.inFlow
  let beforeGap := isGap (cursor.peekAt 1)
  if cursor.column == 0 && c == '%' then scanner.readDirective
  else if cursor.atMarker '-' then scanner.readMarker .documentStart
  else if cursor.atMarker '.' then scanner.readMarker .documentEnd
  else if c == '[' then scanner.readOpening .flowSequenceStart
  else if c == '{' then scanner.readOpening .flowMappingStart
  else if c == ']' then scanner.readClosing .flowSequenceEnd
  else if c == '}' then scanner.readClosing .flowMappingEnd
  else if c == ',' then scanner.readComma
  else if c == '-' && beforeGap then scanner.readEntry
  else if c == '?' && (inFlow || beforeGap) then scanner.readKey
  else if c == ':' && (inFlow || beforeGap) then scanner.readValue
  else if c == '*' then scanner.readAnchor .alias
  else if c == '&' then scanner.readAnchor .anchor
  else if c == '!' then scanner.readTag
  else if c == '|' && !inFlow then scanner.readBlockScalar true
  else if c == '>' && !inFlow then scanner.readBlockScalar false
  else if c == '\x27' then scanner.readQuotedScalar true
  else if c == '\x22' then scanner.readQuotedScalar false
  else if scanner.startsPlain c then scanner.readPlainScalar
  else none

/-- Closes what is open at the end of the stream. -/
def finish (scanner : Scanner) : Option (List Token) :=
  ((scanner.closeBlocks 0).dropCandidate).map (·.tokens.toList)

/-- Reads tokens up to the end of the stream. -/
def scan : Nat → Scanner → Option (List Token)
  | 0, _ => none
  | fuel + 1, scanner => do
    let scanner ← scanner.toNextToken.checkRequired
    let scanner := scanner.closeBlocks (scanner.cursor.column + 1)
    match scanner.cursor.peek with
    | none => scanner.finish
    | some c => scan fuel (← scanner.readToken c)

end Scanner

/-- The tokens of a stream, unless it holds a character or a construct that is not allowed. -/
def Token.ofText? (text : String) : Option (List Token) :=
  if text.toList.all isAllowed then Scanner.scan (text.length + 2) (Scanner.start text) else none

end Scaffold.Yaml
