import Scaffold.Text.Octets

/-!
# Patterns

A pattern is a list of marks: octets that stand for themselves where they are quoted, and otherwise
may stand for others: `?` for any octet, `*` for any number of them, and `[…]` for one of a class.
`matchesText` says whether a pattern of a script stands for the whole of a text, and `fits` whether
one that a utility is given does: there a class may be negated by `^` as well as by `!`.
-/

set_option autoImplicit false

namespace Scaffold.Shell

open Text (Octets)

/-- An octet of a pattern, and whether it was quoted. -/
structure Mark where
  octet : Char
  isQuoted : Bool
  deriving DecidableEq, Repr

namespace Mark

/-- The mark is this octet, unquoted. -/
def isBare (mark : Mark) (c : Char) : Bool :=
  !mark.isQuoted && mark.octet == c

end Mark

/-- One step of a pattern. -/
inductive Step
  | octet (c : Char)
  | any
  | anyNumber
  | oneOf (isNegated : Bool) (ranges : List (Char × Char))
  deriving DecidableEq, Repr

namespace Step

/-- The step stands for the octet. -/
def accepts : Step → Char → Bool
  | octet expected, c => expected == c
  | any, _ => true
  | anyNumber, _ => true
  | oneOf isNegated ranges, c =>
    ranges.any (fun range ↦ range.1 ≤ c && c ≤ range.2) != isNegated

/-- The ranges of the named class. -/
def classRanges : String → List (Char × Char)
  | "alnum" => [('0', '9'), ('A', 'Z'), ('a', 'z')]
  | "alpha" => [('A', 'Z'), ('a', 'z')]
  | "blank" => [('\t', '\t'), (' ', ' ')]
  | "cntrl" => [('\x00', '\x1f'), ('\x7f', '\x7f')]
  | "digit" => [('0', '9')]
  | "graph" => [('!', '~')]
  | "lower" => [('a', 'z')]
  | "print" => [(' ', '~')]
  | "punct" => [('!', '/'), (':', '@'), ('[', '\x60'), ('\x7b', '~')]
  | "space" => [('\t', '\r'), (' ', ' ')]
  | "upper" => [('A', 'Z')]
  | "xdigit" => [('0', '9'), ('A', 'F'), ('a', 'f')]
  | _ => []

/-- The names of classes, with the colons and the bracket around them. -/
def classNames : List String :=
  ["alnum", "alpha", "blank", "cntrl", "digit", "graph", "lower", "print", "punct", "space",
    "upper", "xdigit"]

/-- The named class that comes after an opening bracket, and what follows its closing one. -/
def namedClass? (marks : List Mark) : Option (List (Char × Char) × List Mark) :=
  classNames.findSome? fun name ↦
    let text := ':' :: name.toList ++ [':', ']']
    if text.length ≤ marks.length && (text.zip marks).all fun (c, mark) ↦ mark.isBare c then
      some (classRanges name, marks.drop text.length)
    else none

/-- Passes over a backslash that takes the meaning of the octet after it. -/
def literal : List Mark → List Mark
  | mark :: next :: rest =>
    if mark.isBare '\\' then { next with isQuoted := true } :: rest else mark :: next :: rest
  | marks => marks

/-- The ranges between brackets and what follows the closing one; `isFirst` at a place where a
closing bracket is an octet like any other. Only a script has brackets that begin a class without
naming one. -/
def readRanges (isScript : Bool) :
    Nat → (isFirst : Bool) → List Mark → Option (List (Char × Char) × List Mark)
  | 0, _, _ => none
  | _ + 1, _, [] => none
  | left + 1, isFirst, mark :: rest =>
    if mark.isBare ']' && !isFirst then some ([], rest)
    else
      match if mark.isBare '[' then namedClass? rest else none with
      | some (found, rest) =>
        (readRanges isScript left false rest).map fun (ranges, rest) ↦ (found ++ ranges, rest)
      | none =>
        if mark.isBare '[' && !isScript && rest.head?.any (·.isBare ':') then none
        else
          match literal (mark :: rest) with
          | [] => none
          | mark :: rest =>
            match rest with
            | dash :: last :: others =>
              if dash.isBare '-' && !last.isBare ']' then
                match literal (last :: others) with
                | [] => none
                | last :: others =>
                  (readRanges isScript left false others).map fun (ranges, rest) ↦
                    ((mark.octet, last.octet) :: ranges, rest)
              else
                (readRanges isScript left false rest).map fun (ranges, rest) ↦
                  ((mark.octet, mark.octet) :: ranges, rest)
            | _ =>
              (readRanges isScript left false rest).map fun (ranges, rest) ↦
                ((mark.octet, mark.octet) :: ranges, rest)

/-- Reads the class after an opening bracket. -/
def readClass (isScript : Bool) (marks : List Mark) : Option (Step × List Mark) :=
  match marks with
  | mark :: rest =>
    let isNegated := mark.isBare '!' || (!isScript && mark.isBare '^')
    (readRanges isScript (marks.length + 1) true (if isNegated then rest else marks)).map
      fun (ranges, rest) ↦ (oneOf isNegated ranges, rest)
  | [] => none

/-- The steps of a pattern, be it that of a script. A bracket that is never closed stands for
itself, and what follows a backslash does so in any case. -/
def ofMarks (isScript : Bool) : Nat → List Mark → List Step
  | 0, _ => []
  | _ + 1, [] => []
  | left + 1, mark :: rest =>
    if mark.isBare '?' then any :: ofMarks isScript left rest
    else if mark.isBare '*' then anyNumber :: ofMarks isScript left rest
    else if mark.isBare '[' then
      match readClass isScript rest with
      | some (step, rest) => step :: ofMarks isScript left rest
      | none => octet '[' :: ofMarks isScript left rest
    else if mark.isBare '\\' then
      match rest with
      | escaped :: rest => octet escaped.octet :: ofMarks isScript left rest
      | [] => [octet '\\']
    else octet mark.octet :: ofMarks isScript left rest

/-- The steps that may come next: without any number of octets that may be none. -/
def openings : List Step → List (List Step)
  | anyNumber :: steps => (anyNumber :: steps) :: openings steps
  | steps => [steps]

/-- The steps that may be left after an octet. -/
def after (c : Char) : List Step → List (List Step)
  | [] => []
  | anyNumber :: steps => openings (anyNumber :: steps)
  | step :: steps => if step.accepts c then openings steps else []

/-- The lists that are different, told apart by their lengths: all are ends of one list. -/
def distinct (ends : List (List Step)) : List (List Step) :=
  ends.foldl (fun kept steps ↦
    if kept.any fun other ↦ other.length == steps.length then kept else steps :: kept) []

/-- One of the ends of a list of steps stands for the whole text. -/
def matchesAny : List (List Step) → Octets → Bool
  | ends, [] => ends.any List.isEmpty
  | ends, c :: rest =>
    if ends.isEmpty then false else matchesAny (distinct (ends.flatMap (after c))) rest

/-- The steps stand for the whole text. -/
def matchesAll (steps : List Step) (text : Octets) : Bool :=
  matchesAny (openings steps) text

end Step

namespace Pattern

/-- The steps of a pattern of a script. -/
def steps (marks : List Mark) : List Step :=
  Step.ofMarks true (marks.length + 1) marks

/-- The pattern of a script stands for the whole text. -/
def matchesText (marks : List Mark) (text : Octets) : Bool :=
  Step.matchesAll (steps marks) text

/-- The pattern that a utility is given stands for the whole text, be it in lower or upper case if
that makes no difference. -/
def fits (pattern : Octets) (folds : Bool) (text : Octets) : Bool :=
  let lower := fun (text : Octets) ↦ if folds then text.map Char.toLower else text
  let marks : List Mark := (lower pattern).map fun c ↦ ⟨c, false⟩
  Step.matchesAll (Step.ofMarks false (marks.length + 1) marks) (lower text)

/-- The pattern has an octet that may stand for others. A bracket does not without its end. -/
def isOpen (marks : List Mark) : Bool :=
  let inBrackets := (marks.dropWhile fun mark ↦ !mark.isBare '[').drop 1
  marks.any (fun mark ↦ mark.isBare '*' || mark.isBare '?') ||
    inBrackets.any fun mark ↦ mark.isBare ']'

/-- The text without the shortest or longest part at its start that the pattern stands for. -/
def removeStart (marks : List Mark) (isLongest : Bool) (text : Octets) : Octets :=
  let steps := steps marks
  let cuts := List.range (text.length + 1)
  let order := if isLongest then cuts.reverse else cuts
  match order.find? fun count ↦ Step.matchesAll steps (text.take count) with
  | some count => text.drop count
  | none => text

/-- The text without the shortest or longest part at its end that the pattern stands for. -/
def removeEnd (marks : List Mark) (isLongest : Bool) (text : Octets) : Octets :=
  let steps := steps marks
  let cuts := List.range (text.length + 1)
  let order := if isLongest then cuts else cuts.reverse
  match order.find? fun count ↦ Step.matchesAll steps (text.drop count) with
  | some count => text.take count
  | none => text

end Pattern

end Scaffold.Shell
