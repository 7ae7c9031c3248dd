/-!
# Scalars of a YAML stream

The classes of characters that YAML tells apart, and a position in a stream (`Cursor`): the
characters from there on, how many octets come before them, and the line and column. A line ends
with a carriage return, a line feed, both, or one of three further characters.

There are three ways to write a scalar: plain, quoted, and as a block of lines. In plain and quoted
scalars a gap of white space between words is a `Gap`: spaces are kept, and line ends are folded:
one becomes a space, and of several the first is dropped (`Gap.folded`).
-/

set_option autoImplicit false

namespace Scaffold.Yaml

/-- A character that may stand in a stream. -/
def isAllowed (c : Char) : Bool :=
  let code := c.toNat
  code == 0x09 || code == 0x0A || code == 0x0D || (0x20 ≤ code && code ≤ 0x7E) || code == 0x85 ||
    (0xA0 ≤ code && code ≤ 0xD7FF) || (0xE000 ≤ code && code ≤ 0xFFFD) || 0x10000 ≤ code

/-- The byte order mark. -/
def byteOrderMark : Char := '\uFEFF'

/-- A character that ends a line. -/
def isBreak (c : Char) : Bool :=
  ['\r', '\n', '\u0085', '\u2028', '\u2029'].contains c

/-- A space or a tab. -/
def isSpace (c : Char) : Bool :=
  c == ' ' || c == '\t'

/-- No character, a space, a tab, or the end of a line. -/
def isGap : Option Char → Bool
  | none => true
  | some c => isSpace c || isBreak c

/-- A character of a name: a letter, a digit, an underscore or a hyphen. -/
def isWordChar (c : Char) : Bool :=
  c.isAlphanum || c == '_' || c == '-'

/-- A position in a stream. -/
structure Cursor where
  rest : List Char
  /-- How many characters come from here on. -/
  left : Nat
  left_eq : left = rest.length
  /-- How many octets come before. -/
  index : Nat
  line : Nat
  column : Nat

namespace Cursor

/-- The start of a stream. -/
def start (text : String) : Cursor :=
  ⟨text.toList, text.toList.length, rfl, 0, 0, 0⟩

/-- The next character. -/
def peek (cursor : Cursor) : Option Char :=
  cursor.rest.head?

/-- The character after `offset` others. -/
def peekAt (cursor : Cursor) (offset : Nat) : Option Char :=
  cursor.rest[offset]?

/-- The next character is this one. -/
def at_ (cursor : Cursor) (c : Char) : Bool :=
  cursor.peek == some c

/-- Past one character within a line. -/
def skip (cursor : Cursor) : Cursor :=
  match hrest : cursor.rest with
  | c :: rest =>
    { rest
      left := cursor.left - 1
      left_eq := by simp [cursor.left_eq, hrest]
      index := cursor.index + c.utf8Size
      line := cursor.line
      column := cursor.column + 1 }
  | [] => cursor

/-- Past one character that ends a line. -/
def skipLineEnd (cursor : Cursor) : Cursor :=
  { cursor.skip with line := cursor.line + 1, column := 0 }

/-- Past several characters within a line. -/
def skipMany (cursor : Cursor) : (count : Nat) → Cursor
  | 0 => cursor
  | count + 1 => cursor.skip.skipMany count

/-- Past the end of a line, if one is next. -/
def skipBreak (cursor : Cursor) : Cursor :=
  match cursor.rest with
  | '\r' :: '\n' :: _ => cursor.skip.skipLineEnd
  | c :: _ => if isBreak c then cursor.skipLineEnd else cursor
  | [] => cursor

/-- What the end of a line contributes to a text: the two separator characters stand for themselves,
every other end of a line is a line feed. -/
def breakText (cursor : Cursor) : List Char :=
  match cursor.rest with
  | [] => []
  | c :: _ =>
    if c = '\u2028' ∨ c = '\u2029' then [c]
    else if isBreak c then ['\n']
    else []

/-- Past the characters of the line that satisfy a predicate. -/
def skipWhile (cursor : Cursor) (accept : Char → Bool) : Cursor :=
  cursor.skipMany (cursor.rest.takeWhile accept).length

/-- Past the rest of the line. -/
def skipLine (cursor : Cursor) : Cursor :=
  cursor.skipWhile fun c ↦ !isBreak c

/-- A comment, if one is next, and the rest of its line. -/
def skipComment (cursor : Cursor) : Cursor :=
  if cursor.at_ '#' then cursor.skipLine else cursor

/-- Three times `mark` at the start of a line, followed by a gap. -/
def atMarker (cursor : Cursor) (mark : Char) : Bool :=
  cursor.column == 0 && cursor.rest.take 3 == [mark, mark, mark] && isGap (cursor.peekAt 3)

/-- A marker that starts or ends a document. -/
def atDocumentMarker (cursor : Cursor) : Bool :=
  cursor.atMarker '-' || cursor.atMarker '.'

end Cursor

end Scaffold.Yaml

namespace Scaffold.Yaml

/-- White space between words: spaces in reverse, or line ends, the later ones in reverse. Without a
first line end the gap began with one that was escaped. -/
inductive Gap
  | spaces (reversed : List Char)
  | breaks (first : List Char) (reversed : List Char)

namespace Gap

/-- No white space. -/
def none : Gap :=
  spaces []

/-- The gap holds the end of a line. -/
def isBroken : Gap → Bool
  | spaces _ => false
  | breaks _ _ => true

/-- What a gap contributes to the text, in reverse. -/
def folded : Gap → List Char
  | spaces reversed => reversed
  | breaks ['\n'] [] => [' ']
  | breaks ['\n'] reversed => reversed
  | breaks first reversed => reversed ++ first

end Gap

/-- Reads the white space between words. At most `fuel` characters are read. A tab that stands
before the column `indent` of a later line is refused. -/
def readGap (indent : Nat) : Nat → Gap → Cursor → Option (Gap × Cursor)
  | 0, gap, cursor => some (gap, cursor)
  | fuel + 1, gap, cursor =>
    match cursor.peek with
    | some c =>
      if isSpace c then
        match gap with
        | .spaces reversed => readGap indent fuel (.spaces (c :: reversed)) cursor.skip
        | .breaks .. =>
          if c = '\t' ∧ cursor.column < indent then none
          else readGap indent fuel gap cursor.skip
      else if isBreak c then
        match gap with
        | .spaces _ => readGap indent fuel (.breaks cursor.breakText []) cursor.skipBreak
        | .breaks first reversed =>
          readGap indent fuel (.breaks first (cursor.breakText ++ reversed)) cursor.skipBreak
      else some (gap, cursor)
    | Option.none => some (gap, cursor)

/-- A scalar that was read: its text, whether a line ended after it, and where it ends. -/
structure Scanned where
  text : String
  crossesLine : Bool
  cursor : Cursor

/-! ### Plain scalars -/

/-- A character that ends a plain scalar inside brackets. -/
def isFlowMark (c : Char) : Bool :=
  [',', '[', ']', '{', '}'].contains c

/-- Reads the words of a plain scalar. The text is given in reverse, the part so far and the whole,
which comes with the gap after it and the place where it ends. -/
def readPlain (inFlow : Bool) (indent : Nat) :
    Nat → List Char → Gap → Cursor → Option (List Char × Gap × Cursor)
  | 0, text, gap, cursor => some (text, gap, cursor)
  | fuel + 1, text, gap, cursor =>
    match cursor.peek with
    | none => some (text, gap, cursor)
    | some c =>
      if isGap (some c) then
        match readGap indent cursor.left gap cursor with
        | none => none
        | some (gap, next) =>
          let stops := (!inFlow && next.column < indent) || next.atDocumentMarker || next.at_ '#'
          if stops then some (text, gap, next)
          else readPlain inFlow indent fuel text gap next
      else if inFlow && c == ':' && (cursor.peekAt 1).any (fun d ↦ isFlowMark d || d == '?') then
        none
      else if (c == ':' && isGap (cursor.peekAt 1)) || (inFlow && isFlowMark c) then
        some (text, gap, cursor)
      else readPlain inFlow indent fuel (c :: (gap.folded ++ text)) .none cursor.skip

/-- Reads a plain scalar. `indent` is the least column of its later lines outside brackets. -/
def plainScalar (inFlow : Bool) (indent : Nat) (cursor : Cursor) : Option Scanned := do
  let (text, gap, stop) ← readPlain inFlow indent (2 * cursor.left + 1) [] .none cursor
  return ⟨String.ofList text.reverse, gap.isBroken, stop⟩

/-! ### Quoted scalars -/

/-- The character of a one-letter escape. -/
def escaped? : Char → Option Char
  | '0' => some '\x00'
  | 'a' => some '\x07'
  | 'b' => some '\x08'
  | 't' => some '\t'
  | '\t' => some '\t'
  | 'n' => some '\n'
  | 'v' => some '\x0b'
  | 'f' => some '\x0c'
  | 'r' => some '\r'
  | 'e' => some '\x1b'
  | ' ' => some ' '
  | '\x22' => some '\x22'
  | '/' => some '/'
  | '\\' => some '\\'
  | 'N' => some '\u0085'
  | '_' => some '\u00a0'
  | 'L' => some '\u2028'
  | 'P' => some '\u2029'
  | _ => none

/-- The number of digits of a numeric escape. -/
def escapeDigits? : Char → Option Nat
  | 'x' => some 2
  | 'u' => some 4
  | 'U' => some 8
  | _ => none

/-- The value of a hexadecimal digit. -/
def hexDigit? (c : Char) : Option Nat :=
  if c.isDigit then some (c.toNat - '0'.toNat)
  else if 'a' ≤ c ∧ c ≤ 'f' then some (c.toNat - 'a'.toNat + 10)
  else if 'A' ≤ c ∧ c ≤ 'F' then some (c.toNat - 'A'.toNat + 10)
  else none

/-- The value of a list of hexadecimal digits. -/
def hexValue? (digits : List Char) : Option Nat :=
  digits.foldlM (fun value digit ↦ (hexDigit? digit).map (value * 16 + ·)) 0

/-- The character that follows a backslash, and how many characters stand for it. -/
def escape? (rest : List Char) : Option (Char × Nat) :=
  match rest with
  | [] => none
  | letter :: digits =>
    match escaped? letter with
    | some c => some (c, 1)
    | none => do
      let count ← escapeDigits? letter
      let written := digits.take count
      let value ← if written.length = count then hexValue? written else none
      if h : value.isValidChar then some (Char.ofNatAux value h, count + 1) else none

/-- Reads a quoted scalar after its opening quote. The text so far is given in reverse. -/
def readQuoted (isSingle : Bool) : Nat → List Char → Gap → Cursor → Option Scanned
  | 0, _, _, _ => none
  | fuel + 1, text, gap, cursor =>
    let quote := if isSingle then '\x27' else '\x22'
    if cursor.atDocumentMarker then none
    else
      match cursor.peek with
      | none => none
      | some c =>
        if isGap (some c) then
          match readGap 0 cursor.left gap cursor with
          | none => none
          | some (gap, next) => readQuoted isSingle fuel (gap.folded ++ text) .none next
        else
          let text := gap.folded ++ text
          if isSingle && c == quote && cursor.peekAt 1 == some quote then
            readQuoted isSingle fuel (quote :: text) .none (cursor.skipMany 2)
          else if c == quote then some ⟨String.ofList text.reverse, false, cursor.skip⟩
          else if !isSingle && c == '\\' then
            if (cursor.peekAt 1).any isBreak then
              readQuoted isSingle fuel text (.breaks [] []) cursor.skip.skipBreak
            else
              match escape? cursor.rest.tail with
              | some (d, count) =>
                readQuoted isSingle fuel (d :: text) .none (cursor.skipMany (count + 1))
              | none => none
          else readQuoted isSingle fuel (c :: text) .none cursor.skip

/-- Reads a quoted scalar. -/
def quotedScalar (isSingle : Bool) (cursor : Cursor) : Option Scanned :=
  readQuoted isSingle (2 * cursor.left + 1) [] .none cursor.skip

/-! ### Block scalars -/

/-- What becomes of the line ends at the end of a block. -/
inductive Chomping
  | strip
  | clip
  | keep
  deriving DecidableEq, Repr

/-- The chomping that a mark stands for. -/
def Chomping.ofChar? : Char → Option Chomping
  | '+' => some .keep
  | '-' => some .strip
  | _ => none

/-- The indentation that a digit stands for; zero is refused. -/
def indentOf? (c : Char) : Option Nat :=
  if c.isDigit ∧ c ≠ '0' then some (c.toNat - '0'.toNat) else none

/-- Reads the optional chomping mark and indentation digit of a block, in either order. -/
def blockHeader (cursor : Cursor) : Option (Chomping × Option Nat × Cursor) :=
  match cursor.peek.bind Chomping.ofChar? with
  | some chomping =>
    let next := cursor.skip
    if next.peek.any Char.isDigit then
      (next.peek.bind indentOf?).map fun indent ↦ (chomping, some indent, next.skip)
    else some (chomping, none, next)
  | none =>
    if cursor.peek.any Char.isDigit then
      (cursor.peek.bind indentOf?).map fun indent ↦
        let next := cursor.skip
        match next.peek.bind Chomping.ofChar? with
        | some chomping => (chomping, some indent, next.skip)
        | none => (.clip, some indent, next)
    else some (.clip, none, cursor)

/-- Past the indentation of a line: spaces before the column `indent`, or all of them when the
indentation is still unknown. -/
def skipIndent (indent : Option Nat) : Nat → Cursor → Cursor
  | 0, cursor => cursor
  | fuel + 1, cursor =>
    if indent.all (cursor.column < ·) && cursor.at_ ' ' then
      skipIndent indent fuel cursor.skip
    else cursor

/-- Reads empty lines: their line ends in reverse, the greatest column of their spaces, and the
start of the first line with text. A tab in the indentation is refused. -/
def readEmptyLines (indent : Option Nat) :
    Nat → List Char → Nat → Cursor → Option (List Char × Nat × Cursor)
  | 0, breaks, widest, cursor => some (breaks, widest, cursor)
  | fuel + 1, breaks, widest, cursor =>
    let next := skipIndent indent cursor.left cursor
    let widest := max widest next.column
    if indent.all (next.column < ·) && next.at_ '\t' then none
    else if next.peek.any isBreak then
      readEmptyLines indent fuel (next.breakText ++ breaks) widest next.skipBreak
    else some (breaks, widest, next)

/-- Reads the lines of a block at a known indentation. The text so far and the line ends since are
given in reverse: `ending` is the end of the last line, `empty` are those of the empty lines after
it. -/
def readBlockLines (isLiteral : Bool) (indent : Nat) :
    Nat → (text ending empty : List Char) → (afterSpaced : Bool) → Cursor →
      Option (List Char × List Char × List Char × Cursor)
  | 0, text, ending, empty, _, cursor => some (text, ending, empty, cursor)
  | fuel + 1, text, ending, empty, afterSpaced, cursor =>
    match cursor.peek with
    | none => some (text, ending, empty, cursor)
    | some c =>
      if cursor.column = indent then
        let isSpaced := isSpace c
        let folds := !isLiteral && ending == ['\n'] && !afterSpaced && !isSpaced
        let text :=
          if folds then (if empty.isEmpty then ' ' :: text else empty ++ text)
          else empty ++ ending ++ text
        let line := cursor.rest.takeWhile fun d ↦ !isBreak d
        let stop := cursor.skipMany line.length
        match readEmptyLines (some indent) (stop.left + 1) [] 0 stop.skipBreak with
        | none => none
        | some (next, _, start) =>
          readBlockLines isLiteral indent fuel (line.reverse ++ text) stop.breakText next isSpaced
            start
      else some (text, ending, empty, cursor)

/-- Reads a block scalar, from its mark on. `parent` is the indentation of the block around it, one
more than its column. -/
def blockScalar (isLiteral : Bool) (parent : Nat) (cursor : Cursor) : Option Scanned := do
  let (chomping, increment, header) ← blockHeader cursor.skip
  let stop := (header.skipWhile isSpace).skipComment
  if stop.peek.all isBreak then
    let first := stop.skipBreak
    let given := increment.map fun increment ↦ (parent - 1) + increment
    let (empty, widest, start) ← readEmptyLines given (first.left + 1) [] 0 first
    let indent := given.getD (max widest (max parent 1))
    let (text, ending, empty, last) ←
      readBlockLines isLiteral indent (start.left + 1) [] [] empty false start
    let tail :=
      match chomping with
      | .strip => []
      | .clip => ending
      | .keep => empty ++ ending
    return ⟨String.ofList (tail ++ text).reverse, true, last⟩
  else none

end Scaffold.Yaml
