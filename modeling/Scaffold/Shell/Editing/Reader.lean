import Scaffold.Shell.Editing.Script
import Scaffold.Text.Cut

/-!
# Reading scripts that edit lines

A script comes in parts, each an argument or a file; what is wrong with it is told with the place
where the reading stands (`Reading.complain`). Letters after a backslash stand for octets
(`normalized`) in expressions and in what replaces them.
-/

set_option autoImplicit false

namespace Scaffold.Shell.Editing

open Text (Octets)

/-- Where a part of a script comes from: the number of an argument, or the name of a file. -/
inductive Origin
  | argument (number : Nat)
  | file (name : Octets)
  deriving Repr

/-- Where the reading of a script stands. -/
structure Reading where
  rest : Octets
  /-- The octets read of this part. -/
  count : Nat
  line : Nat
  origin : Origin
  later : List (Origin × Octets)
  /-- The places of the blocks that are open. -/
  blocks : List (Origin × Nat)
  isSilent : Bool
  /-- This is the first part. -/
  isFirst : Bool
  /-- The script may neither run commands nor read or write files. -/
  isSandboxed : Bool

/-- What is wrong with a script, and the status that tells it. -/
structure ScriptFault where
  status : Nat
  message : Octets

/-- A part of the reading of a script. -/
abbrev Reader := StateT Reading (Except ScriptFault)

/-- A message about a place in a script. -/
def located (origin : Origin) (count line : Nat) (text : String) : Octets :=
  let place :=
    match origin with
    | .argument number =>
      "-e expression #".toList ++ Number.digits 10 number ++ ", char ".toList ++
        Number.digits 10 count
    | .file name => "file ".toList ++ name ++ " line ".toList ++ Number.digits 10 line
  place ++ ": ".toList ++ Octets.ofText text

/-- Refuses the script. -/
def complain {α : Type} (text : String) : Reader α := do
  let reading ← get
  throw ⟨1, located reading.origin reading.count reading.line text⟩

/-- Refuses what would reach outside, if the script may not. -/
def reachOutside : Reader Unit := do
  if (← get).isSandboxed then complain "e/r/w commands disabled in sandbox mode"

/-- Takes the next octet. -/
def take : Reader (Option Char) := do
  let reading ← get
  match reading.rest with
  | [] => return none
  | c :: rest =>
    set { reading with
      rest, count := reading.count + 1, line := reading.line + (if c = '\n' then 1 else 0) }
    return some c

/-- Puts an octet back. -/
def putBack (octet : Option Char) : Reader Unit := do
  if let some c := octet then
    modify fun reading ↦
      { reading with
        rest := c :: reading.rest, count := reading.count - 1
        line := reading.line - (if c = '\n' then 1 else 0) }

/-- Takes octets as long as they pass. -/
def takeWhile (test : Char → Bool) : Reader Octets := do
  let reading ← get
  let taken := reading.rest.takeWhile test
  set { reading with
    rest := reading.rest.drop taken.length, count := reading.count + taken.length
    line := reading.line + taken.count '\n' }
  return taken

/-- A space or a tab. -/
def isBlank (c : Char) : Bool :=
  c == ' ' || c == '\t'

/-- An octet that divides words. -/
def isSpace (c : Char) : Bool :=
  c == ' ' || ('\t' ≤ c && c ≤ '\r')

/-- Takes the next octet that is no blank. -/
def takeVisible : Reader (Option Char) := do
  let _ ← takeWhile isBlank
  take

/-- Goes on to the next part of the script, if there is one. -/
def nextPart : Reader Bool := do
  let reading ← get
  match reading.later with
  | [] => return false
  | (origin, text) :: later =>
    set { reading with rest := text, count := 0, line := 1, origin, later, isFirst := false }
    return true

/-- Takes a number; zero if there is none. -/
def number : Reader Nat := do
  return Text.digitsValue 10 (← takeWhile Char.isDigit)

/-! ### Escapes -/

/-- What a text is for in which letters stand for octets. -/
inductive TextKind
  | expression
  | replacement
  | plain
  deriving DecidableEq

/-- The octet of a letter after a backslash that stands for one. -/
def letterOctet? : Char → Option Char
  | 'a' => some '\x07'
  | 'f' => some '\x0c'
  | 'n' => some '\n'
  | 'r' => some '\r'
  | 't' => some '\t'
  | 'v' => some '\x0b'
  | _ => none

/-- A digit of a base up to sixteen. -/
def isDigitOf (base : Nat) (c : Char) : Bool :=
  if base = 16 then c.isDigit || ('a' ≤ c.toLower && c.toLower ≤ 'f')
  else '0' ≤ c && c.toNat < '0'.toNat + base

/-- The base of the number after a letter, and its most digits. -/
def baseOf? : Char → Option (Nat × Nat)
  | 'd' => some (10, 3)
  | 'o' => some (8, 3)
  | 'x' => some (16, 2)
  | _ => none

/-- A text with the octets that letters and numbers after a backslash stand for; an octet that would
mean something in the text keeps a backslash in front. -/
def normalized (kind : TextKind) : (left : Nat) → Octets → Except String Octets
  | 0, text => .ok text
  | _ + 1, [] => .ok []
  | left + 1, '\\' :: c :: rest => do
    match letterOctet? c, baseOf? c with
    | some octet, _ => return octet :: (← normalized kind left rest)
    | none, some (base, most) =>
      let digits := (rest.takeWhile (isDigitOf base)).take most
      if digits.isEmpty then return c :: (← normalized kind left rest)
      else
        let octet := Char.ofNat (Text.digitsValue base digits % 256)
        let others ← normalized kind left (rest.drop digits.length)
        let isMeant := kind = .replacement ∧ (octet = '&' ∨ octet = '\\' ∨ octet = '\n')
        return if isMeant then '\\' :: octet :: others else octet :: others
    | none, none =>
      if c = 'c' then
        let control := fun (c : Char) (rest : Octets) ↦ do
          return Char.ofNat (c.toUpper.toNat ^^^ 64) :: (← normalized kind left rest)
        match rest with
        | [] => return ['\\']
        | '\\' :: '\\' :: rest => control '\\' rest
        | '\\' :: _ => throw "recursive escaping after \\c not allowed"
        | c :: rest => control c rest
      else return '\\' :: c :: (← normalized kind left rest)
  | left + 1, c :: rest => do return c :: (← normalized kind left rest)

/-- The same as a part of the reading of a script. -/
def normalize (kind : TextKind) (text : Octets) : Reader Octets :=
  match normalized kind (text.length + 1) text with
  | .ok text => return text
  | .error message => complain message

/-! ### Expressions -/

/-- Where the reading of a text up to a delimiter stands with regard to brackets: outside, at their
start, inside, or inside a name in them that a mark ends. -/
inductive Depth
  | outside
  | start
  | inside
  | name (mark : Char)

/-- Takes a text up to a delimiter that counts for itself after a backslash; none if it does not
end. In an expression a delimiter in brackets counts for itself too. -/
def delimited (mark : Char) (isExpression : Bool) : (left : Nat) → Depth → (text : Octets) →
    Reader (Option Octets)
  | 0, _, _ => return none
  | left + 1, depth, text => do
    let go := delimited mark isExpression left
    match ← take with
    | none => return none
    | some '\n' =>
      putBack (some '\n')
      return none
    | some c =>
      match depth with
      | .outside =>
        if c = mark then return some text.reverse
        else if c = '\\' then
          match ← take with
          | none => return none
          | some '\n' => go .outside ('\n' :: text)
          | some c =>
            if c = mark then
              go .outside (if c = '&' ∧ !isExpression then '&' :: '\\' :: text else c :: text)
            else if c = 'n' ∧ isExpression then go .outside ('\n' :: text)
            else go .outside (c :: '\\' :: text)
        else if c = '[' ∧ isExpression then
          let next ← take
          if next = some '^' then go .start ('^' :: '[' :: text)
          else
            putBack next
            go .start ('[' :: text)
        else go .outside (c :: text)
      | .start =>
        if c = ']' then go .inside (c :: text)
        else
          putBack (some c)
          go .inside text
      | .inside =>
        if c = ']' then go .outside (c :: text)
        else if c = '[' then
          let next ← take
          match next with
          | some mark =>
            if mark = '.' ∨ mark = ':' ∨ mark = '=' then go (.name mark) (mark :: '[' :: text)
            else
              putBack next
              go .inside ('[' :: text)
          | none => return none
        else if c = '\\' then
          let next ← take
          match next with
          | some 'n' => go .inside ('\n' :: text)
          | some '\\' => go .inside ('\\' :: '\\' :: text)
          | some other =>
            putBack (some other)
            go .inside ('\\' :: text)
          | none => return none
        else go .inside (c :: text)
      | .name end_ =>
        let next ← take
        if c = end_ ∧ next = some ']' then go .inside (']' :: c :: text)
        else
          putBack next
          go depth (c :: text)

/-- Takes a text up to a delimiter, or refuses the script. -/
def upTo (mark : Char) (isExpression : Bool) (refusal : String) : Reader Octets := do
  let left := 2 * (← get).rest.length + 2
  match ← delimited mark isExpression left .outside [] with
  | some text => return text
  | none => complain refusal

/-- The largest number of a group in an expression. -/
def lastGroup : Expression → Nat
  | .group number _ body => max number (lastGroup body)
  | .sequence first second | .either first second => max (lastGroup first) (lastGroup second)
  | .repeated body _ _ _ => lastGroup body
  | _ => 0

/-- What a text searches for; none for an empty one. `needed` groups must be there. -/
def soughtOf (isExtended folds isLinewise : Bool) (needed : Nat) (text : Octets) :
    Reader (Option Sought) := do
  if text.isEmpty then
    if folds || isLinewise then complain "cannot specify modifiers on empty regexp"
    return none
  let text ← normalize .expression text
  let dialect := if isExtended then Dialect.extended else Dialect.basic
  let dialect := if isLinewise then dialect.linewise else dialect
  match dialect.sought folds text with
  | .error .bareClass => throw ⟨4, Octets.ofText SearchFault.bareClass.message⟩
  | .error fault => complain fault.message
  | .ok sought =>
    if lastGroup sought.expression < needed then
      complain ("invalid reference \\" ++ toString needed ++ " on \x60s' command's RHS")
    return some sought

/-! ### Addresses -/

/-- Takes the letters after the expression of an address: case, lines. -/
def addressLetters : (left : Nat) → (folds isLinewise : Bool) → Reader (Bool × Bool)
  | 0, folds, isLinewise => return (folds, isLinewise)
  | left + 1, folds, isLinewise => do
    match ← takeVisible with
    | some 'I' => addressLetters left true isLinewise
    | some 'M' => addressLetters left folds true
    | other =>
      putBack other
      return (folds, isLinewise)

/-- Reads an address that begins with this octet, if it does. -/
def address? (isExtended : Bool) (first : Option Char) : Reader (Option RangeEnd) := do
  match first with
  | some '$' => return some (.address .last)
  | some '+' =>
    let _ ← takeWhile isBlank
    return some (.plus (← number))
  | some '~' =>
    let _ ← takeWhile isBlank
    return some (.multiple (← number))
  | some '/' | some '\\' =>
    let mark ← if first = some '/' then pure (some '/') else take
    let text ← upTo (mark.getD '/') true "unterminated address regex"
    let (folds, isLinewise) ← addressLetters ((← get).rest.length + 1) false false
    return some (.address (.text (← soughtOf isExtended folds isLinewise 0 text)))
  | some c =>
    if c.isDigit then
      putBack first
      let line ← number
      match ← takeVisible with
      | some '~' =>
        let _ ← takeWhile isBlank
        let gap ← number
        return some (.address (if gap = 0 then .number line else .step line gap))
      | other =>
        putBack other
        return some (.address (.number line))
    else return none
  | none => return none

/-- Reads the addresses in front of a command whose first octet was taken; gives the first octet
after them too. -/
def selection (isExtended : Bool) (start : Option Char) : Reader (Selection × Option Char) := do
  let first? ← address? isExtended start
  let (first, last, next) ←
    match first? with
    | none => pure (none, none, start)
    | some (.address first) => do
      let next ← takeVisible
      let (last, next) ←
        if next = some ',' then do
          match ← address? isExtended (← takeVisible) with
          | some last => pure (some last, ← takeVisible)
          | none => complain "unexpected \x60,'"
        else pure (none, next)
      if let .number 0 := first then
        match last with
        | some (.address (.text _)) => pure ()
        | _ => complain "invalid usage of line address 0"
      pure (some first, last, next)
    | some _ => complain "invalid usage of +N or ~N as first address"
  if next = some '!' then
    let next ← takeVisible
    if next = some '!' then complain "multiple \x60!'s"
    return (⟨first, last, true⟩, next)
  else return (⟨first, last, false⟩, next)

/-! ### Commands -/

/-- Passes over the end of a command. -/
def endOfCommand : Reader Unit := do
  match ← takeVisible with
  | some '\x7d' => putBack (some '\x7d')
  | some '#' => putBack (some '#')
  | none | some '\n' | some ';' => return ()
  | some _ => complain "extra characters after command"

/-- Reads the text that a command adds, up to the end of a line that no backslash keeps; it may go
on in the next part of the script. -/
def addedLines : (left : Nat) → (text : Octets) → Reader Octets
  | 0, text => return text.reverse
  | left + 1, text => do
    match ← take with
    | none | some '\n' => return ('\n' :: text).reverse
    | some '\\' =>
      match ← take with
      | some c => addedLines left (c :: '\\' :: text)
      | none =>
        if ← nextPart then addedLines left ('\n' :: '\\' :: text)
        else return ('\n' :: text).reverse
    | some c => addedLines left (c :: text)

/-- A text without the backslashes in front of its octets. -/
def unescaped : Octets → Octets
  | '\\' :: c :: rest => c :: unescaped rest
  | c :: rest => c :: unescaped rest
  | [] => []

/-- The most octets that are left of a script. -/
def bound : Reader Nat := do
  let reading ← get
  return reading.later.foldl (fun sum part ↦ sum + part.2.length + 1) (reading.rest.length + 2)

/-- Reads the text that a command adds. A backslash that it begins with keeps no line from
ending. -/
def addedText : Reader Octets := do
  let lines : Reader Octets := do
    let start ← match ← take with
      | some '\\' => pure ['\\']
      | other =>
        putBack other
        pure []
    return unescaped (← normalize .plain (← addedLines (← bound) start))
  match ← takeVisible with
  | none => complain "expected \\ after \x60a', \x60c' or \x60i'"
  | some '\\' =>
    match ← take with
    | some '\n' => lines
    | none => if ← nextPart then lines else return []
    | other =>
      putBack other
      lines
  | other =>
    putBack other
    lines

/-- Reads a label. -/
def labelName : Reader Octets := do
  let _ ← takeWhile isBlank
  takeWhile fun c ↦ !isSpace c && c != ';' && c != '\x7d'

/-- Reads the name of a file, up to the end of the line. -/
def fileName : Reader Octets := do
  let _ ← takeWhile isBlank
  let name ← takeWhile (· != '\n')
  let _ ← take
  if name.isEmpty then complain "missing filename in r/R/w/W commands"
  return name

/-- Where the reading of a replacement stands: the text since the last segment in reverse, the case
for it, and the case after it. -/
structure ReplacementReading where
  text : Octets
  letters : LetterCase
  kept : LetterCase

/-- The segments of a replacement. A letter for the case counts from the next text or group on. -/
def segments : ReplacementReading → Octets → List Segment
  | state, [] => if state.text.isEmpty then [] else [⟨state.text.reverse, state.letters, none⟩]
  | state, ['\\'] => [⟨('\\' :: state.text).reverse, state.letters, none⟩]
  | state, '\\' :: c :: rest =>
    let segment : Segment := ⟨state.text.reverse, state.letters, none⟩
    let kept := state.kept
    if c.isDigit then
      { segment with group := some (c.toNat - '0'.toNat) } :: segments ⟨[], kept, kept⟩ rest
    else
      match c with
      | 'L' => segment :: segments ⟨[], ⟨some false, none⟩, ⟨some false, none⟩⟩ rest
      | 'U' => segment :: segments ⟨[], ⟨some true, none⟩, ⟨some true, none⟩⟩ rest
      | 'E' => segment :: segments ⟨[], .plain, .plain⟩ rest
      | 'l' => segment :: segments ⟨[], { kept with first := some false }, kept⟩ rest
      | 'u' => segment :: segments ⟨[], { kept with first := some true }, kept⟩ rest
      | c =>
        { segment with text := (c :: state.text).reverse } :: segments ⟨[], kept, kept⟩ rest
  | state, '&' :: rest =>
    ⟨state.text.reverse, state.letters, some 0⟩ :: segments ⟨[], state.kept, state.kept⟩ rest
  | state, c :: rest => segments { state with text := c :: state.text } rest

/-- The letters and numbers after a substitution. -/
structure SubstitutionLetters where
  folds : Bool
  isLinewise : Bool
  isGlobal : Bool
  prints : Bool
  evaluates : Bool
  which : Option Nat
  target : Option Octets

/-- Reads the letters after a substitution. -/
def substitutionLetters : (left : Nat) → SubstitutionLetters → Reader SubstitutionLetters
  | 0, found => return found
  | left + 1, found => do
    match ← take with
    | some 'i' | some 'I' => substitutionLetters left { found with folds := true }
    | some 'm' | some 'M' => substitutionLetters left { found with isLinewise := true }
    | some 'e' =>
      reachOutside
      substitutionLetters left { found with evaluates := true }
    | some 'p' =>
      if found.prints then complain "multiple \x60p' options to \x60s' command"
      substitutionLetters left { found with prints := true }
    | some 'g' =>
      if found.isGlobal then complain "multiple \x60g' options to \x60s' command"
      substitutionLetters left { found with isGlobal := true }
    | some 'w' =>
      reachOutside
      return { found with target := some (← fileName) }
    | some '\x7d' =>
      putBack (some '\x7d')
      return found
    | some '#' =>
      putBack (some '#')
      return found
    | none | some '\n' | some ';' => return found
    | some ' ' | some '\t' => substitutionLetters left found
    | some '\r' =>
      if (← take) = some '\n' then return found else complain "unknown option to \x60s'"
    | some c =>
      if c.isDigit then
        if found.which.isSome then complain "multiple number options to \x60s' command"
        putBack (some c)
        let which ← number
        if which = 0 then complain "number option to \x60s' command may not be zero"
        substitutionLetters left { found with which := some which }
      else complain "unknown option to \x60s'"

/-- Reads a substitution after its letter. -/
def substitution (isExtended : Bool) : Reader Substitution := do
  let refusal := "unterminated \x60s' command"
  match ← take with
  | none => complain refusal
  | some mark =>
    let pattern ← upTo mark true refusal
    let text ← normalize .replacement (← upTo mark false refusal)
    let replacement := segments ⟨[], .plain, .plain⟩ text
    let letters ← substitutionLetters ((← get).rest.length + 1)
      ⟨false, false, false, false, false, none, none⟩
    let needed := replacement.foldl (fun most segment ↦ max most (segment.group.getD 0)) 0
    let sought ← soughtOf isExtended letters.folds letters.isLinewise needed pattern
    return ⟨sought, replacement, letters.isGlobal, letters.which.getD 1, letters.prints,
      letters.evaluates, letters.target⟩

/-- Reads a translation after its letter. -/
def translation : Reader (List (Char × Char)) := do
  let refusal := "unterminated \x60y' command"
  match ← take with
  | none => complain refusal
  | some mark =>
    let first := unescaped (← normalize .plain (← upTo mark false refusal))
    let second := unescaped (← normalize .plain (← upTo mark false refusal))
    if first.length ≠ second.length then
      complain "strings for \x60y' command are different lengths"
    return first.zip second

/-- Reads a number after a command, if there is one, and the end of the command. -/
def argument : Reader (Option Nat) := do
  let _ ← takeWhile isBlank
  let digits ← takeWhile Char.isDigit
  endOfCommand
  return if digits.isEmpty then none else some (Text.digitsValue 10 digits)

/-- Reads a command whose letter was taken, after its addresses. -/
def action (isExtended : Bool) (selection : Selection) (letter : Option Char) :
    Reader Action := do
  if letter.any ['e', 'r', 'R', 'w', 'W'].contains then reachOutside
  match letter with
  | none => complain "missing command"
  | some c =>
    match c with
    | '\x7b' =>
      modify fun reading ↦
        { reading with blocks := (reading.origin, reading.line) :: reading.blocks }
      return .enter
    | '\x7d' =>
      match (← get).blocks with
      | [] => complain "unexpected \x60\x7d'"
      | _ :: blocks =>
        if selection.first.isSome then complain "\x60\x7d' doesn't want any addresses"
        endOfCommand
        modify fun reading ↦ { reading with blocks }
        return .leave
    | ':' =>
      if selection.first.isSome then complain ": doesn't want any addresses"
      let name ← labelName
      if name.isEmpty then complain "\":\" lacks a label"
      return .label name
    | 'b' | 't' | 'T' => return .jump c (← labelName)
    | 's' => return .substitute (← substitution isExtended)
    | 'y' =>
      let table ← translation
      endOfCommand
      return .translate table
    | 'a' => return .append (← addedText)
    | 'i' => return .insert (← addedText)
    | 'c' => return .change (← addedText)
    | 'e' =>
      match ← takeVisible with
      | none | some '\n' => return .execute []
      | other =>
        putBack other
        return .execute (unescaped (← normalize .plain (← addedLines (← bound) []))).dropLast
    | 'q' | 'Q' =>
      if selection.last.isSome then complain "command only uses one address"
      return .quit (c == 'Q') ((← argument).getD 0)
    | 'l' => return .list (← argument)
    | 'r' => return .read (← fileName)
    | 'R' => return .readLine (← fileName)
    | 'w' => return .write (← fileName)
    | 'W' => return .writeFirst (← fileName)
    | 'L' => throw ⟨4, "INTERNAL ERROR: Bad cmd L".toList⟩
    | c =>
      if ['d', 'D', 'g', 'G', 'h', 'H', 'n', 'N', 'p', 'P', 'x', '=', 'z', 'F'].contains c then
        endOfCommand
        return .simple c
      else complain ("unknown command: \x60" ++ String.ofList [c] ++ "'")

/-- A version that a script may ask for is not too new. -/
def isKnownVersion (version : Octets) : Bool :=
  let numbers := (Text.pieces (· == '.') version).map (Text.digitsValue 10)
  decide (numbers.headD 0 < 4) ||
    (numbers.headD 0 == 4 && decide ((numbers.drop 1).headD 0 ≤ 9))

/-- Reads the instructions of a script, the first of which has this number. -/
def readInstructions (isExtended : Bool) : (left : Nat) → (count : Nat) → Reader (List Instruction)
  | 0, _ => return []
  | left + 1, count => do
    let _ ← takeWhile fun c ↦ c == ';' || isSpace c
    let before ← get
    match ← take with
    | none => if ← nextPart then readInstructions isExtended left count else return []
    | start =>
      let (selection, letter) ← selection isExtended start
      if letter = some '#' then
        if selection.first.isSome then complain "comments don't accept any addresses"
        let comment ← takeWhile (· != '\n')
        if before.isFirst && before.count == 0 && comment.head? == some 'n' then
          modify fun reading ↦ { reading with isSilent := true }
        readInstructions isExtended left count
      else if letter = some 'v' then
        let version ← labelName
        if !isKnownVersion version then complain "expected newer version of sed"
        readInstructions isExtended left count
      else
        let action ← action isExtended selection letter
        return ⟨count, selection, action⟩ :: (← readInstructions isExtended left (count + 1))

/-- Reads a script that comes in parts. -/
def Script.read (isExtended isSandboxed : Bool) (parts : List (Origin × Octets)) :
    Except ScriptFault Script := do
  match parts with
  | [] => return ⟨[], false⟩
  | (origin, text) :: later =>
    let start : Reading := ⟨text, 0, 1, origin, later, [], false, true, isSandboxed⟩
    let left := parts.foldl (fun sum part ↦ sum + 2 * part.2.length + 4) 4
    let (found, reading) ← (readInstructions isExtended left 0).run start
    if let (origin, line) :: _ := reading.blocks then
      throw ⟨1, located origin 0 line "unmatched \x60\x7b'"⟩
    let names := found.filterMap fun instruction ↦
      match instruction.action with
      | .label name => some name
      | _ => none
    for instruction in found do
      if let .jump _ name := instruction.action then
        if !name.isEmpty && !names.contains name then
          throw ⟨4, "can't find label for jump to \x60".toList ++ name ++ ['\x27']⟩
    return ⟨found, reading.isSilent⟩

end Scaffold.Shell.Editing
