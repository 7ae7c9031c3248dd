/-!
# Numbers in digits

The value of digits in a base, and of decimal digits that fit into 64 bits, with a plus sign or
without.
-/

set_option autoImplicit false

namespace Scaffold.Text

/-- One more than the greatest number that fits into 64 bits, which is 2 to the power of 64. -/
def wordLimit : Nat := 18446744073709551616

/-- The value of a digit or of a letter that stands for one. -/
def digitValue (digit : Char) : Nat :=
  if digit.isDigit then digit.toNat - '0'.toNat else digit.toLower.toNat - 'a'.toNat + 10

/-- The value of digits in a base. -/
def digitsValue (base : Nat) (digits : List Char) : Nat :=
  digits.foldl (fun value digit ↦ value * base + digitValue digit) 0

/-- The value of a non-empty list of decimal digits, leading zeros allowed, that fits. -/
def number? (digits : List Char) : Option Nat :=
  if digits ≠ [] ∧ digits.all Char.isDigit ∧ digitsValue 10 digits < wordLimit then
    some (digitsValue 10 digits)
  else none

/-- The value of a number with an optional plus sign. -/
def signedNumber? : List Char → Option Nat
  | '+' :: digits => number? digits
  | digits => number? digits

end Scaffold.Text
