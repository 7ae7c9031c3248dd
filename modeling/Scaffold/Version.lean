import Scaffold.Text.Cut
import Scaffold.Text.Digits

/-!
# Versions

A version has three numbers, pre-release identifiers and build identifiers. `Version.order` is the
order by precedence, refined by build identifiers: a version without pre-release identifiers comes
after those with some, numeric identifiers come before alphanumeric ones, and a list of identifiers
comes after its beginnings.

`strict?` reads a full version: three numbers without leading zeros, then optional pre-release and
build identifiers. `short?` reads one to three numbers with any leading zeros, by way of the full
text that they stand for. `parse?` trims the text, removes one leading `v`, and tries the first and
then the second. Numbers fit into 64 bits.

Two texts that both read as versions are compared as versions; else, two texts that both read as
dotted numbers are compared number by number, the shorter padded with zeros; else the trimmed texts
are compared code point by code point.
-/

set_option autoImplicit false

namespace Scaffold

/-- A version; identifiers are texts of letters, digits and hyphens. -/
structure Version where
  major : Nat
  minor : Nat
  patch : Nat
  preRelease : List String
  build : List String
  deriving DecidableEq, Repr

namespace Version

/-- The identifier holds digits only. -/
def isNumeric (identifier : String) : Bool :=
  identifier.toList.all Char.isDigit

/-- The identifier without its leading zeros. -/
def withoutZeros (identifier : String) : String :=
  String.ofList (identifier.toList.dropWhile (· == '0'))

/-- Numeric identifiers come first. -/
def rank (identifier : String) : Nat :=
  if isNumeric identifier then 0 else 1

/-- The order of pre-release identifiers: numeric ones by value (they have no leading zeros, so a
longer one is greater), others by text. -/
def preReleaseOrder : String → String → Ordering :=
  compareLex (compareOn rank) <|
    compareLex (compareOn fun text ↦ if isNumeric text then text.length else 0) compare

/-- The order of build identifiers: numeric ones by value and then by the number of leading zeros,
others by text. -/
def buildOrder : String → String → Ordering :=
  compareLex (compareOn rank) <|
    compareLex (compareOn fun text ↦ if isNumeric text then (withoutZeros text).length else 0) <|
      compareLex (compareOn fun text ↦ if isNumeric text then withoutZeros text else text)
        (compareOn String.length)

/-- A version without pre-release identifiers comes after those with some. -/
def releaseRank (version : Version) : Nat :=
  if version.preRelease = [] then 1 else 0

/-- The order of versions. -/
def order : Version → Version → Ordering :=
  compareLex (compareOn major) <| compareLex (compareOn minor) <| compareLex (compareOn patch) <|
    compareLex (compareOn releaseRank) <|
      compareLex (fun first second ↦
          List.compareLex preReleaseOrder first.preRelease second.preRelease)
        (fun first second ↦ List.compareLex buildOrder first.build second.build)

/-- The text of a list of identifiers. -/
def identifiersText (identifiers : List String) : String :=
  Text.joinWith "." identifiers

end Version

end Scaffold

namespace Scaffold.Version

/-- The value of a number without leading zeros. -/
def plainNumber? (digits : List Char) : Option Nat :=
  if digits.head? = some '0' ∧ digits ≠ ['0'] then none else Text.number? digits

/-- A character of an identifier. -/
def isIdentifierChar (c : Char) : Bool :=
  c.isAlphanum || c == '-'

/-- The identifiers of a text between dots, each of which `accept` admits. -/
def identifiers? (accept : List Char → Bool) (text : List Char) : Option (List String) :=
  let found := Text.pieces (· == '.') text
  if found.all fun identifier ↦
      !identifier.isEmpty && identifier.all isIdentifierChar && accept identifier then
    some (found.map String.ofList)
  else none

/-- A pre-release identifier: a number in it has no leading zero. -/
def isPreRelease (identifier : List Char) : Bool :=
  !(identifier.all Char.isDigit && identifier.head? == some '0' && identifier != ['0'])

/-- The text before the first `mark`, and the text after it if there is one. -/
def cutOptional (mark : Char) (text : List Char) : List Char × Option (List Char) :=
  match Text.cutChars? mark text with
  | some (before, after) => (before, some after)
  | none => (text, none)

/-- The identifiers of an optional part; an absent part has none. -/
def optionalIdentifiers? (accept : List Char → Bool) : Option (List Char) → Option (List String)
  | none => some []
  | some text => identifiers? accept text

/-- Reads a full version. -/
def strict? (text : List Char) : Option Version := do
  let (front, build) := cutOptional '+' text
  let (core, preRelease) := cutOptional '-' front
  match Text.pieces (· == '.') core with
  | [major, minor, patch] =>
    return ⟨← plainNumber? major, ← plainNumber? minor, ← plainNumber? patch,
      ← optionalIdentifiers? isPreRelease preRelease,
      ← optionalIdentifiers? (fun _ ↦ true) build⟩
  | _ => none

/-- The digits without leading zeros; of nothing but zeros, one is left. -/
def plainDigits (digits : List Char) : List Char :=
  match digits.dropWhile (· == '0') with
  | [] => ['0']
  | plain => plain

/-- The full text of a version of up to three numbers; missing ones are zero. -/
def fullText (numbers : List (List Char)) : List Char :=
  let number := fun index ↦ plainDigits (numbers.getD index [])
  number 0 ++ '.' :: number 1 ++ '.' :: number 2

/-- Reads one to three numbers, put into the full text that they stand for. -/
def short? (text : List Char) : Option Version :=
  let numbers := Text.pieces (· == '.') text
  if numbers.length ≤ 3 ∧
      numbers.all fun number ↦ !number.isEmpty && number.all Char.isDigit then
    strict? (fullText numbers)
  else none

/-- The text without one leading `v`. -/
def withoutMark : List Char → List Char
  | 'v' :: rest => rest
  | text => text

/-- Reads a version: trimmed, without one leading `v`, in full or as one to three numbers. -/
def parse? (text : String) : Option Version :=
  let cleaned := withoutMark (Text.trimChars text.toList)
  (strict? cleaned).or (short? cleaned)

end Scaffold.Version

namespace Scaffold.Version

/-- The numbers between dots of the trimmed text without any leading `v`. -/
def numbers? (text : String) : Option (List Nat) :=
  let cleaned := (Text.trimChars text.toList).dropWhile (· == 'v')
  (Text.pieces (· == '.') cleaned).mapM Text.signedNumber?

/-- The list with zeros added up to a length. -/
def padTo (size : Nat) (numbers : List Nat) : List Nat :=
  numbers ++ List.replicate (size - numbers.length) 0

/-- The lexicographic order of two lists of numbers, the shorter one padded with zeros. -/
def numbersOrder (first second : List Nat) : Ordering :=
  let size := max first.length second.length
  List.compareLex compare (padTo size first) (padTo size second)

/-- The order of two version texts. -/
def compareTexts (first second : String) : Ordering :=
  match parse? first, parse? second with
  | some left, some right => left.order right
  | _, _ =>
    match numbers? first, numbers? second with
    | some left, some right => numbersOrder left right
    | _, _ => compare (Text.trim first) (Text.trim second)

/-- The found version is not below the minimum. -/
def meetsMinimum (found minimum : String) : Bool :=
  compareTexts found minimum != .lt

end Scaffold.Version
