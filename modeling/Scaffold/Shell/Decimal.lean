import Scaffold.Shell.Number

/-!
# Broken numbers

The number nearest to a decimal text that a binary number of 64 bits can hold, and its text with a
given number of places, or of digits that count. A binary number is a fraction of whole numbers, so
the texts are exact: of two texts equally near the one with the even digit is taken.

Numbers whose value has no more than 64 binary digits that count are held as fractions too. What
comes of a calculation is rounded to such a number (`Extended.ofRatio`), the even one of two. The
number nearest to a text may lie beyond them all (`Extended.leading?`).
-/

set_option autoImplicit false

namespace Scaffold.Shell

open Text (Octets)

/-- A number that need not be whole: a fraction of whole numbers, or one of the two that are
none. -/
inductive Decimal
  | ratio (isNegative : Bool) (numerator denominator : Nat)
  | infinite (isNegative : Bool)
  | undefined
  deriving DecidableEq, Repr

namespace Decimal

/-- The whole number nearest to a fraction, the even one of two. -/
def nearest (numerator denominator : Nat) : Nat :=
  let below := numerator / denominator
  let twice := 2 * (numerator % denominator)
  if twice < denominator ∨ (twice = denominator ∧ below % 2 = 0) then below else below + 1

/-- The fraction that a binary number is. -/
def ofFloat (value : Float) : Decimal :=
  let bits := value.toBits.toNat
  let isNegative := bits / 9223372036854775808 == 1
  let exponent := bits / 4503599627370496 % 2048
  let mantissa := bits % 4503599627370496
  if exponent = 2047 then if mantissa = 0 then infinite isNegative else undefined
  else
    let full := if exponent = 0 then mantissa else mantissa + 4503599627370496
    let shift := max exponent 1
    if shift ≥ 1075 then ratio isNegative (full * Nat.pow 2 (shift - 1075)) 1
    else ratio isNegative full (Nat.pow 2 (1075 - shift))

/-- The exponent at the front of a text after a mark, large or small, and what follows it. -/
def exponentAfter (mark : Char) (text : Octets) : Int × Octets :=
  match text with
  | first :: rest =>
    if first.toLower = mark then
      let (isNegative, body) := Number.sign rest
      let digits := body.takeWhile Char.isDigit
      let value : Int := Text.digitsValue 10 (digits.take 6)
      if digits.isEmpty then (0, text)
      else (if isNegative then -value else value, body.drop digits.length)
    else (0, text)
  | [] => (0, [])

/-- The power of ten at the front of a text, and what follows it. -/
def exponent (text : Octets) : Int × Octets :=
  exponentAfter 'e' text

/-- The digits at the front of a text and those after a point that follows them, and the rest. -/
def pointedDigits (isDigit : Char → Bool) (text : Octets) : Octets × Octets × Octets :=
  let whole := text.takeWhile isDigit
  match text.drop whole.length with
  | '.' :: after =>
    let fraction := after.takeWhile isDigit
    (whole, fraction, after.drop fraction.length)
  | rest => (whole, [], rest)

/-- The number of hexadecimal digits with a power of two after them, if there is one; `0x` has been
read. -/
def afterBase (text : Octets) : Float × Octets :=
  let (whole, fraction, after) := pointedDigits Number.isHexadecimal (text.drop 2)
  if whole.isEmpty && fraction.isEmpty then (0, text.drop 1)
  else
    let (power, rest) := exponentAfter 'p' after
    let digits := Float.ofNat (Text.digitsValue 16 (whole ++ fraction))
    (digits.scaleB (power - 4 * fraction.length), rest)

/-- The number without a sign at the front of a text, and what follows it. -/
def unsigned? (text : Octets) : Option (Float × Octets) :=
  let lower := text.map Char.toLower
  if "infinity".toList.isPrefixOf lower then some (1.0 / 0.0, text.drop 8)
  else if "inf".toList.isPrefixOf lower then some (1.0 / 0.0, text.drop 3)
  else if "nan".toList.isPrefixOf lower then some (0.0 / 0.0, text.drop 3)
  else if ['0', 'x'].isPrefixOf lower then some (afterBase text)
  else
    let (whole, fraction, after) := pointedDigits Char.isDigit text
    if whole.isEmpty && fraction.isEmpty then none
    else
      let (power, rest) := exponent after
      let scale : Int := power - fraction.length
      let digits := Text.digitsValue 10 (whole ++ fraction)
      some (Float.ofScientific digits (scale < 0) scale.natAbs, rest)

/-- The number at the front of a text after blanks, and what follows it. -/
def leading? (text : Octets) : Option (Decimal × Octets) := do
  let (isNegative, body) := Number.sign (Number.dropBlanks text)
  let (value, rest) ← unsigned? body
  return (ofFloat (if isNegative then -value else value), rest)

/-- The digits of a whole number with a point before the last `places` of them. -/
def pointed (places : Nat) (showsPoint : Bool) (value : Nat) : Octets :=
  let digits := Number.digits 10 value
  let digits := List.replicate (places + 1 - digits.length) '0' ++ digits
  let whole := digits.take (digits.length - places)
  let fraction := digits.drop (digits.length - places)
  whole ++ (if places > 0 || showsPoint then ['.'] else []) ++ fraction

/-- A fraction with so many places. -/
def fixed (places : Nat) (showsPoint : Bool) (numerator denominator : Nat) : Octets :=
  pointed places showsPoint (nearest (numerator * Nat.pow 10 places) denominator)

/-- The fraction times a power of ten. -/
def scaled (numerator denominator : Nat) (power : Int) : Nat × Nat :=
  if power ≥ 0 then (numerator * Nat.pow 10 power.natAbs, denominator)
  else (numerator, denominator * Nat.pow 10 power.natAbs)

/-- The power of ten of the first digit that counts, and the digits, `places` of them after the
first. -/
def digitsAndPower (places numerator denominator : Nat) : Nat × Int :=
  if numerator = 0 then (0, 0)
  else
    let guess : Int :=
      ((Number.digits 10 numerator).length : Int) - (Number.digits 10 denominator).length
    let (above, below) := scaled numerator denominator (-guess)
    let power := if above < below then guess - 1 else guess
    let (above, below) := scaled numerator denominator (places - power)
    let digits := nearest above below
    if digits < Nat.pow 10 (places + 1) then (digits, power) else (digits / 10, power + 1)

/-- The text of a power of ten, with a sign and two digits at least. -/
def powerText (mark : Char) (power : Int) : Octets :=
  let digits := Number.digits 10 power.natAbs
  mark :: (if power < 0 then '-' else '+') ::
    (if digits.length < 2 then '0' :: digits else digits)

/-- A fraction with a power of ten and so many places. -/
def scientific (mark : Char) (places : Nat) (showsPoint : Bool) (numerator denominator : Nat) :
    Octets :=
  let (digits, power) := digitsAndPower places numerator denominator
  pointed places showsPoint digits ++ powerText mark power

/-- The text without zeros at its end, and without a point there. -/
def dropZeros (text : Octets) : Octets :=
  if text.contains '.' then
    let shorter := (text.reverse.dropWhile (· == '0'))
    (if shorter.head? = some '.' then shorter.tail else shorter).reverse
  else text

/-- A fraction with so many digits that count: with a power of ten if it is small or large, and
without zeros at the end unless `showsPoint`. -/
def general (mark : Char) (count : Nat) (showsPoint : Bool) (numerator denominator : Nat) :
    Octets :=
  let count := max count 1
  let (digits, power) := digitsAndPower (count - 1) numerator denominator
  let short := fun (text : Octets) ↦ if showsPoint then text else dropZeros text
  if power < -4 ∨ power ≥ count then
    short (pointed (count - 1) showsPoint digits) ++ powerText mark power
  else short (fixed ((count : Int) - 1 - power).natAbs showsPoint numerator denominator)

/-- How a number is written in hexadecimal digits: how many binary digits stand before the point,
how many digits follow it at most, and the smallest power of two for numbers with all their
digits. -/
structure HexadecimalForm where
  lead : Nat
  places : Nat
  least : Int

/-- The form for numbers of 64 bits. -/
def HexadecimalForm.single : HexadecimalForm :=
  ⟨1, 13, -1022⟩

/-- The form for numbers with 64 binary digits that count. -/
def HexadecimalForm.full : HexadecimalForm :=
  ⟨4, 15, -16382⟩

/-- The power of two of a fraction, not below `least`. -/
def binaryPower (least : Int) (numerator denominator : Nat) : Int :=
  let guess : Int := (numerator.log2 : Int) - denominator.log2
  let isBelow :=
    if guess ≥ 0 then decide (numerator < denominator * Nat.pow 2 guess.natAbs)
    else decide (numerator * Nat.pow 2 guess.natAbs < denominator)
  max least (if isBelow then guess - 1 else guess)

/-- A fraction in hexadecimal digits after its `0x`, with a power of two: as many digits as it has,
or so many after the point. -/
def hexadecimal (form : HexadecimalForm) (places : Option Nat) (showsPoint : Bool)
    (numerator denominator : Nat) : Octets :=
  let power := if numerator = 0 then 0
    else binaryPower form.least numerator denominator - (form.lead - 1)
  let count := places.getD form.places
  let shift : Int := 4 * count - power
  let value :=
    if shift ≥ 0 then nearest (numerator * Nat.pow 2 shift.natAbs) denominator
    else nearest numerator (denominator * Nat.pow 2 shift.natAbs)
  let isFull := value ≥ Nat.pow 16 (count + 1)
  let value := if isFull then value / 16 else value
  let power := if isFull then power + 4 else power
  let digits := Number.digits 16 (value % Nat.pow 16 count)
  let digits := List.replicate (count - digits.length) '0' ++ digits
  let digits := if count = 0 then [] else digits
  let digits := if places.isNone then (digits.reverse.dropWhile (· == '0')).reverse else digits
  Number.digits 16 (value / Nat.pow 16 count) ++
    (if showsPoint || !digits.isEmpty then ['.'] else []) ++ digits ++
    'p' :: (if power < 0 then '-' else '+') :: Number.digits 10 power.natAbs

end Decimal

/-! ### Numbers with 64 binary digits -/

/-- A number with 64 binary digits that count. -/
structure Extended where
  isNegative : Bool
  numerator : Nat
  denominator : Nat
  deriving DecidableEq, Repr

namespace Extended

/-- The number nearest to a fraction. -/
def ofRatio (isNegative : Bool) (numerator denominator : Nat) : Extended :=
  if numerator = 0 then ⟨isNegative, 0, 1⟩
  else
    let guess : Int := (numerator.log2 : Int) - denominator.log2 - 63
    let at_ := fun (power : Int) ↦
      if power ≥ 0 then Decimal.nearest numerator (denominator * Nat.pow 2 power.natAbs)
      else Decimal.nearest (numerator * Nat.pow 2 power.natAbs) denominator
    let power := if at_ guess < 9223372036854775808 then guess - 1 else guess
    if power ≥ 0 then ⟨isNegative, at_ power * Nat.pow 2 power.natAbs, 1⟩
    else ⟨isNegative, at_ power, Nat.pow 2 power.natAbs⟩

/-- A whole number. -/
def ofInt (value : Int) : Extended :=
  ofRatio (value < 0) value.natAbs 1

/-- The sum of two numbers. -/
def add (first second : Extended) : Extended :=
  let signed := fun (number : Extended) (scale : Nat) ↦
    let value : Int := number.numerator * scale
    if number.isNegative then -value else value
  let sum := signed first second.denominator + signed second first.denominator
  ofRatio (sum < 0) sum.natAbs (first.denominator * second.denominator)

/-- The product of two numbers. -/
def multiply (first second : Extended) : Extended :=
  ofRatio (first.isNegative != second.isNegative) (first.numerator * second.numerator)
    (first.denominator * second.denominator)

/-- The number is at least so far from zero. -/
def isAtLeast (number : Extended) (bound : Nat) : Bool :=
  bound * number.denominator ≤ number.numerator

/-- The number as one of those that may lie beyond all numbers. -/
def toDecimal (number : Extended) : Decimal :=
  .ratio number.isNegative number.numerator number.denominator

/-- The number nearest to digits times a power of a base; the power is as large as numbers go at
most, and beyond it there is infinity, or zero. -/
def nearest (isNegative : Bool) (base digits : Nat) (power : Int) : Decimal :=
  let size := min 40000 power.natAbs
  let (above, below) :=
    if power ≥ 0 then (digits * Nat.pow base size, 1) else (digits, Nat.pow base size)
  let number := ofRatio isNegative above below
  if number.isAtLeast (Nat.pow 2 16384) then .infinite isNegative
  else if number.numerator * Nat.pow 2 16446 ≤ number.denominator then .ratio isNegative 0 1
  else number.toDecimal

/-- The number with a sign at the front of a text after blanks, and what follows it. -/
def leading? (text : Octets) : Option (Decimal × Octets) :=
  let (isNegative, body) := Number.sign (Number.dropBlanks text)
  let lower := body.map Char.toLower
  if "infinity".toList.isPrefixOf lower then some (.infinite isNegative, body.drop 8)
  else if "inf".toList.isPrefixOf lower then some (.infinite isNegative, body.drop 3)
  else if "nan".toList.isPrefixOf lower then some (.undefined, body.drop 3)
  else
    let hexadecimal := Decimal.pointedDigits Number.isHexadecimal (body.drop 2)
    let (whole, fraction, after) := hexadecimal
    if ['0', 'x'].isPrefixOf lower && !(whole.isEmpty && fraction.isEmpty) then
      let (power, rest) := Decimal.exponentAfter 'p' after
      let digits := Text.digitsValue 16 (whole ++ fraction)
      some (nearest isNegative 2 digits (power - 4 * fraction.length), rest)
    else
      let (whole, fraction, after) := Decimal.pointedDigits Char.isDigit body
      if whole.isEmpty && fraction.isEmpty then none
      else
        let (power, rest) := Decimal.exponent after
        let digits := Text.digitsValue 10 (whole ++ fraction)
        some (nearest isNegative 10 digits (power - fraction.length), rest)

end Extended

end Scaffold.Shell
