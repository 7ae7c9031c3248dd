import Scaffold.Shell.Utility.Basic

/-!
# Amounts

Whole numbers among the arguments of utilities, with a letter for a unit: `10k` is ten times 1024,
and `10kB` ten times 1000. An amount lies between the bounds of its form (`AmountForm.read`).
-/

set_option autoImplicit false

namespace Scaffold.Shell

open Text (Octets)

/-- What is wrong with an amount. -/
inductive AmountFault
  | malformed
  /-- It is out of the bounds. -/
  | outside
  /-- It is far too large. -/
  | tooLarge
  deriving DecidableEq, Repr

/-- What a fault adds to a message. -/
def AmountFault.addition : AmountFault → String
  | .malformed => ""
  | .outside => ": Numerical result out of range"
  | .tooLarge => ": Value too large for defined data type"

/-- The amounts that an argument may give. -/
structure AmountForm where
  isSigned : Bool
  /-- The letters of units; with a zero among them, some may be followed by `B` or `iB`. -/
  units : List Char
  least : Int
  greatest : Int
  /-- A number may be octal after a zero and hexadecimal after `0x`. -/
  readsBases : Bool

namespace AmountForm

/-- The greatest number of 64 bits. -/
def greatestWord : Int := 18446744073709551615

/-- Half of the greatest number of 32 bits with a sign. -/
def halfWord : Int := 1073741823

/-- Amounts of files. -/
def counts : AmountForm :=
  ⟨false, "bkKmMGTPEZY0".toList, 0, greatestWord, false⟩

/-- The power of 1024, or of 1000, that a letter stands for. -/
def power? (letter : Char) : Option Nat :=
  [('k', 1), ('K', 1), ('m', 2), ('M', 2), ('g', 3), ('G', 3), ('t', 4), ('T', 4), ('P', 5),
    ('E', 6), ('Z', 7), ('Y', 8)].lookup letter

/-- The factor of the unit at the front of a text, and what follows it. -/
def unit? (form : AmountForm) : Octets → Option (Int × Octets)
  | [] => some (1, [])
  | letter :: rest =>
    if !form.units.contains letter then none
    else
      match power? letter with
      | none =>
        ([('b', (512, rest)), ('B', (1024, rest)), ('c', (1, rest)), ('w', (2, rest))] :
          List (Char × Int × Octets)).lookup letter
      | some power =>
        let (base, rest) : Nat × Octets :=
          if !form.units.contains '0' then (1024, rest)
          else
            match rest with
            | 'i' :: 'B' :: rest => (1024, rest)
            | 'B' :: rest => (1000, rest)
            | 'D' :: rest => (1000, rest)
            | rest => (1024, rest)
        some (Nat.pow base power, rest)

/-- The amount that a text gives. -/
def read (form : AmountForm) (text : Octets) : Except AmountFault Int := do
  let body := text.dropWhile Char.isWhitespace
  if !form.isSigned && body.head? = some '-' then throw .malformed
  let (isNegative, body) := Number.sign body
  let digits := body.takeWhile Char.isDigit
  let (known, after) :=
    if form.readsBases then Number.unsigned body
    else (Text.digitsValue 10 digits, body.drop digits.length)
  if digits.isEmpty && !(body.length == text.length && after.head?.any form.units.contains) then
    throw .malformed
  let size : Int := if digits.isEmpty then 1 else known
  let value := if isNegative then -size else size
  match form.unit? after with
  | some (factor, []) =>
    let value := value * factor
    let widest := if form.isSigned then Number.greatest else greatestWord
    if value > widest || value < -widest - 1 then throw .tooLarge
    if form.least ≤ value && value ≤ form.greatest then return value
    else throw (if value > halfWord then .tooLarge else .outside)
  | _ => throw .malformed

end AmountForm

namespace Task

/-- Complains about an amount. -/
def wrongAmount (task : Task) (status : Nat) (what : String) (text : Octets)
    (fault : AmountFault) : Effect :=
  task.complain status ((what ++ ": ").toList ++ Quoting.plain text ++ fault.addition.toList)

/-- Reads an amount among the arguments and goes on with it, or complains. -/
def withAmount (task : Task) (form : AmountForm) (status : Nat) (what : String) (text : Octets)
    (next : Int → Effect) : Effect :=
  match form.read text with
  | .ok value => next value
  | .error fault => task.wrongAmount status what text fault

end Task

end Scaffold.Shell
