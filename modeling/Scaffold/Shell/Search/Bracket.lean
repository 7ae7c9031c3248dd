import Scaffold.Shell.Search.Expression

/-!
# Octets between brackets

Brackets list octets, ranges of them, named classes, and single octets in a form that lets them
stand where they would mean something else. `Bracket.read?` reads such a list after its opening
bracket.
-/

set_option autoImplicit false

namespace Scaffold.Shell

open Text (Octets)

/-- What is wrong with the text of an expression. -/
inductive SearchFault
  | invalid
  | openBracket
  | openGroup
  | openBrace
  | badBrace
  | badRange
  | badClass
  | badSymbol
  | badRepeat
  | badAgain
  | loneBackslash
  | loneClose
  | tooBig
  /-- The name of a class stands in single brackets. -/
  | bareClass
  | other (text : String)
  deriving DecidableEq, Repr

/-- The words for a fault. -/
def SearchFault.message : SearchFault → String
  | invalid => "Invalid regular expression"
  | openBracket => "Unmatched [, [^, [:, [., or [="
  | openGroup => "Unmatched ( or \\("
  | openBrace => "Unmatched \\\x7b"
  | badBrace => "Invalid content of \\\x7b\\\x7d"
  | badRange => "Invalid range end"
  | badClass => "Invalid character class name"
  | badSymbol => "Invalid collation character"
  | badRepeat => "Invalid preceding regular expression"
  | badAgain => "Invalid back reference"
  | loneBackslash => "Trailing backslash"
  | loneClose => "Unmatched ) or \\)"
  | tooBig => "Regular expression too big"
  | bareClass => "character class syntax is [[:space:]], not [:space:]"
  | other text => text

/-- What is listed between brackets. -/
structure Bracket where
  isNegated : Bool
  ranges : List (Char × Char)
  /-- It looks like the name of a class that lacks its own brackets. -/
  isBareClass : Bool

namespace Bracket

/-- One thing that is listed: an octet, or the ranges of a class. -/
inductive Item
  | octet (c : Char)
  | symbol (c : Char)
  | classOf (ranges : List (Char × Char))

/-- The octet of an item that may be the end of a range. -/
def Item.end? : Item → Option Char
  | .octet c | .symbol c => some c
  | .classOf _ => none

/-- The ranges that an item stands for. -/
def Item.ranges : Item → List (Char × Char)
  | .octet c | .symbol c => [(c, c)]
  | .classOf ranges => ranges

/-- The names of classes. -/
def classNames : List String :=
  ["alnum", "alpha", "blank", "cntrl", "digit", "graph", "lower", "print", "punct", "space",
    "upper", "xdigit"]

/-- The name up to a mark and a closing bracket, and what follows. -/
def nameUpTo? (mark : Char) : (left : Nat) → Octets → Option (Octets × Octets)
  | 0, _ => none
  | _ + 1, [] => none
  | left + 1, c :: rest =>
    if c = mark ∧ rest.head? = some ']' then some ([], rest.drop 1)
    else (nameUpTo? mark left rest).map fun (name, rest) ↦ (c :: name, rest)

/-- Reads one thing that is listed. -/
def item? (hasClasses : Bool) (text : Octets) : Except SearchFault (Item × Octets) :=
  match text with
  | '[' :: mark :: rest =>
    if mark = '.' ∨ mark = '=' ∨ (mark = ':' ∧ hasClasses) then
      match nameUpTo? mark (rest.length + 1) rest with
      | none => .error .openBracket
      | some (name, rest) =>
        if mark = ':' then
          let name := String.ofList name
          if classNames.contains name then .ok (.classOf (Step.classRanges name), rest)
          else .error .badClass
        else
          match name with
          | [c] => .ok (if mark = '=' then .classOf [(c, c)] else .symbol c, rest)
          | _ => .error .badSymbol
    else .ok (.octet '[', mark :: rest)
  | c :: rest => .ok (.octet c, rest)
  | [] => .error .openBracket

/-- Reads what is listed up to the closing bracket; a hyphen may stand for itself first and last. -/
def items? (hasClasses : Bool) : (left : Nat) → (isFirst : Bool) → Octets →
    Except SearchFault (List (Char × Char) × Octets)
  | 0, _, _ => .error .tooBig
  | left + 1, isFirst, text => do
    if text.head? = some '-' ∧ !isFirst ∧ text.drop 1 ≠ [] ∧ (text.drop 1).head? ≠ some ']' then
      throw .badRange
    let (item, rest) ← item? hasClasses text
    let (ranges, rest) ←
      match rest with
      | '-' :: after =>
        match item, after with
        | .classOf ranges, _ => pure (ranges, rest)
        | _, [] => throw .openBracket
        | _, ']' :: _ => pure (item.ranges, rest)
        | _, after => do
          let (last, rest) ← item? hasClasses after
          match item.end?, last.end? with
          | some first, some last =>
            if last < first then throw .badRange else pure ([(first, last)], rest)
          | _, _ => throw .badRange
      | _ => pure (item.ranges, rest)
    match rest with
    | [] => throw .openBracket
    | ']' :: rest => return (ranges, rest)
    | rest =>
      let (others, rest) ← items? hasClasses left false rest
      return (ranges ++ others, rest)

/-- The text looks like the name of a class between colons. -/
def isBareName (text : Octets) : Bool :=
  text.head? == some ':' && text.getLast? == some ':' && text.any (· != ':') &&
    !text.contains '[' && !(text.drop 1).dropLast.contains '-'

/-- Reads what is listed after an opening bracket. -/
def read? (hasClasses : Bool) (text : Octets) : Except SearchFault (Bracket × Octets) := do
  let isNegated := text.head? = some '^'
  let text := if isNegated then text.drop 1 else text
  if text.isEmpty then throw .invalid
  let (ranges, rest) ← items? hasClasses (text.length + 1) true text
  let inside := text.take (text.length - rest.length - 1)
  return (⟨isNegated, ranges, isBareName inside⟩, rest)

end Bracket

end Scaffold.Shell
