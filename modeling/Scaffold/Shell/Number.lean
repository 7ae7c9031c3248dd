import Scaffold.Text.Digits
import Scaffold.Text.Octets

/-!
# Numbers in scripts

How scripts write whole numbers: in decimal digits, in octal digits after a zero, and in hexadecimal
digits after `0x`. A number is read off the front of a text, and one that does not fit into 64 bits
counts as the nearest that does.
-/

set_option autoImplicit false

namespace Scaffold.Shell.Number

open Text (Octets)

/-- An octal digit. -/
def isOctal (c : Char) : Bool :=
  '0' ≤ c && c ≤ '7'

/-- A hexadecimal digit. -/
def isHexadecimal (c : Char) : Bool :=
  c.isDigit || ('a' ≤ c && c ≤ 'f') || ('A' ≤ c && c ≤ 'F')

/-- The digits of a number in a base. -/
def digits (base value : Nat) : Octets :=
  Nat.toDigits base value

/-- The decimal digits of a number, with its sign. -/
def text (value : Int) : Octets :=
  (if value < 0 then ['-'] else []) ++ digits 10 value.natAbs

/-- The greatest number of 64 bits with a sign. -/
def greatest : Int := 9223372036854775807

/-- The nearest number of 64 bits with a sign. -/
def clamp (value : Int) : Int :=
  max (-greatest - 1) (min greatest value)

/-- The number is one of 64 bits with a sign. -/
def isSmall (value : Int) : Bool :=
  -greatest - 1 ≤ value && value ≤ greatest

/-- The number without a sign at the front of a text, and what follows it. -/
def unsigned : Octets → Nat × Octets
  | '0' :: x :: c :: rest =>
    if (x = 'x' ∨ x = 'X') ∧ isHexadecimal c then
      let digits := (c :: rest).takeWhile isHexadecimal
      (Text.digitsValue 16 digits, (c :: rest).drop digits.length)
    else
      let digits := (x :: c :: rest).takeWhile isOctal
      (Text.digitsValue 8 digits, (x :: c :: rest).drop digits.length)
  | '0' :: rest =>
    let digits := rest.takeWhile isOctal
    (Text.digitsValue 8 digits, rest.drop digits.length)
  | text =>
    let digits := text.takeWhile Char.isDigit
    (Text.digitsValue 10 digits, text.drop digits.length)

/-- The text without blanks at its front. -/
def dropBlanks (text : Octets) : Octets :=
  text.dropWhile Char.isWhitespace

/-- The sign at the front of a text, if there is one: whether it is a minus, and what follows. -/
def sign : Octets → Bool × Octets
  | '-' :: rest => (true, rest)
  | '+' :: rest => (false, rest)
  | text => (false, text)

/-- The number at the front of a text after blanks, with its sign, and what follows it; none if
there is none. -/
def leading? (text : Octets) : Option (Int × Octets) :=
  let (isNegative, body) := sign (dropBlanks text)
  if body.head?.any Char.isDigit then
    let (value, rest) := unsigned body
    some (if isNegative then -value else value, rest)
  else none

/-- The number that a whole text is in decimal digits, with blanks around it. -/
def decimal? (text : Octets) : Option Int :=
  let (isNegative, body) := sign (dropBlanks text)
  let digits := body.takeWhile Char.isDigit
  if digits.isEmpty || !(dropBlanks (body.drop digits.length)).isEmpty then none
  else
    let value : Int := Text.digitsValue 10 digits
    some (if isNegative then -value else value)

/-- The number that a whole text is in decimal digits and nothing else. -/
def plain? (text : Octets) : Option Nat :=
  if text.isEmpty || !text.all Char.isDigit then none else some (Text.digitsValue 10 text)

end Scaffold.Shell.Number
