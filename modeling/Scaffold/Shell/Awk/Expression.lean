import Scaffold.Shell.Search.Dialect

/-!
# Expressions in programs for records

The form of expressions that programs for records search for. A backslash takes the meaning of a
sign or gives a letter the meaning of an octet, also between brackets. Braces stand for themselves.
-/

set_option autoImplicit false

namespace Scaffold.Shell.Awk

open Text (Octets)

namespace Pattern

/-- The reading of an expression: what is left. -/
abbrev Reader := StateT Octets (Except String)

/-- The message about a sign that nothing stands in front of. -/
def noOperand : String := "missing operand"

/-- The message about an expression that cannot be kept. -/
def tooLarge : String := "resource exhaustion -- regular expression too large"

/-- The message about brackets. -/
def badClass : String := "bad class -- [], [^] or ["

/-- The octet that stands after a backslash, and what follows it. -/
def escaped : Octets → Char × Octets
  | [] => ('\\', [])
  | 'x' :: rest =>
    let digits := (rest.take 2).takeWhile Number.isHexadecimal
    if digits.isEmpty then ('x', rest)
    else (Char.ofNat (Text.digitsValue 16 digits % 256), rest.drop digits.length)
  | c :: rest =>
    let digits := ((c :: rest).take 3).takeWhile Number.isOctal
    if !digits.isEmpty then
      (Char.ofNat (Text.digitsValue 8 digits % 256), (c :: rest).drop digits.length)
    else
      let known := [('n', '\n'), ('t', '\t'), ('f', '\x0c'), ('r', '\r'), ('a', '\x07'),
        ('v', '\x0b'), ('b', '\x08')]
      ((known.lookup c).getD c, rest)

/-- The ranges that stand between brackets, and what follows. -/
def ranges : (left : Nat) → (isFirst : Bool) → Octets →
    Except String (List (Char × Char) × Octets)
  | 0, _, _ | _ + 1, _, [] => .error badClass
  | left + 1, isFirst, c :: rest =>
    if c = ']' ∧ !isFirst then .ok ([], rest)
    else
      let named? : Option (Octets × Octets) :=
        if c = '[' ∧ rest.head? = some ':' then
          let name := (rest.drop 1).takeWhile Char.isAlpha
          let after := rest.drop (name.length + 1)
          if [':', ']'].isPrefixOf after then some (name, after.drop 2) else none
        else none
      match named? with
      | some (name, after) =>
        let name := String.ofList name
        if Bracket.classNames.contains name then do
          let (others, rest) ← ranges left false after
          return (Step.classRanges name ++ others, rest)
        else .error badClass
      | none =>
        let (first, rest) := if c = '\\' then escaped rest else (c, rest)
        match rest with
        | '-' :: last :: after =>
          if last = ']' then do
            let (others, rest) ← ranges left false rest
            return ((first, first) :: others, rest)
          else do
            let (last, after) := if last = '\\' then escaped after else (last, after)
            let (others, rest) ← ranges left false after
            if last < first then
              return ((first, first) :: ('-', '-') :: (last, last) :: others, rest)
            else return ((first, last) :: others, rest)
        | rest => do
          let (others, rest) ← ranges left false rest
          return ((first, first) :: others, rest)

/-- Applies the signs that follow a piece. -/
def signs (isStart : Bool) : (left : Nat) → Expression → Reader Expression
  | 0, body => return body
  | left + 1, body => do
    match ← get with
    | c :: rest =>
      if c = '*' ∨ c = '+' ∨ c = '?' then
        if isStart && c != '?' then throw "syntax error ^* or ^+"
        set rest
        let least := if c = '+' then 1 else 0
        let most := if c = '?' then some 1 else none
        signs false left (.repeated body least most false)
      else return body
    | [] => return body

mutual

/-- Reads alternatives up to the end of a group or of the text. -/
def alternatives (depth : Nat) : (left : Nat) → (isInner : Bool) → Reader Expression
  | 0, _ => throw tooLarge
  | left + 1, isInner => do
    let first ← branch depth left isInner true []
    match ← get with
    | '|' :: rest => do
      set rest
      let others ← alternatives depth left isInner
      return .either first others
    | _ => return first

/-- Reads pieces one after the other. -/
def branch (depth : Nat) : (left : Nat) → (isInner isFirst : Bool) → List Expression →
    Reader Expression
  | 0, _, _, _ => throw tooLarge
  | left + 1, isInner, isFirst, before => do
    match ← get with
    | [] =>
      if isFirst && isInner then return .nothing
      else if isFirst then throw noOperand
      else return .ofPieces before.reverse
    | c :: rest =>
      if c = '|' ∨ (c = ')' ∧ isInner) then
        if isFirst then throw noOperand else return .ofPieces before.reverse
      else if isFirst && (c = '*' ∨ c = '+' ∨ c = '?') then throw noOperand
      else
        let piece ← atom left isInner isFirst c rest
        let piece ← signs (c = '^') (rest.length + 1) piece
        branch depth left isInner false (piece :: before)

/-- Reads one piece. -/
def atom : (left : Nat) → (isInner isFirst : Bool) → Char → Octets → Reader Expression
  | 0, _, _, _, _ => throw tooLarge
  | left + 1, _, isFirst, c, rest => do
    if c = '(' then
      if rest.head? = some ')' ∧ !isFirst then
        set (rest.drop 1)
        return .nothing
      else
        set rest
        let body ← alternatives 0 left true
        match ← get with
        | ')' :: rest => do
          set rest
          return body
        | _ => throw "missing ')'"
    else if c = '[' then
      let isNegated := rest.head? == some '^'
      let (ranges, rest) ← ranges (rest.length + 1) true (if isNegated then rest.drop 1 else rest)
      set rest
      return .oneOf isNegated ranges
    else if c = '\\' then
      let (c, rest) := escaped rest
      set rest
      return .octet c
    else
      set rest
      return if c = '.' then .any
        else if c = '^' then .edge .textStart
        else if c = '$' then .edge .textEnd
        else .octet c

end

/-- What an expression asks to search for; otherwise what is wrong with it. -/
def sought (text : Octets) : Except String Sought :=
  if text.isEmpty then .ok (Sought.of .nothing false)
  else do
    let (expression, _) ← (alternatives 0 (4 * text.length + 8) false).run text
    return Sought.of expression false

end Pattern

end Scaffold.Shell.Awk
