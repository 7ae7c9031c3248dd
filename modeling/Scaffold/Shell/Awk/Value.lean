import Scaffold.Shell.Awk.Syntax
import Scaffold.Shell.Printing

/-!
# Values of programs for records

A value is a number or a text. A text that was read counts as a number as well if it looks like one
(`Value.numeric?`), and a name that was never set is both zero and empty. A whole number of 32 bits
is written with all its digits, any other one in a form that the program may choose.
-/

set_option autoImplicit false

namespace Scaffold.Shell.Awk

open Text (Octets)
open Printing (Directive)

/-- A value. -/
inductive Value
  | unset
  | number (value : Float)
  | text (octets : Octets)
  /-- A text that was read. -/
  | read (octets : Octets)
  deriving Inhabited

namespace Value

/-- A blank in front of a number. -/
def isBlank (c : Char) : Bool :=
  c == ' ' || c == '\t' || c == '\n' || c == '\x0b' || c == '\x0c' || c == '\r'

/-- The number at the front of a text, and what follows it; none if there is none. -/
def leading? (text : Octets) : Option (Float × Octets) :=
  let (isNegative, body) := Number.sign (text.dropWhile isBlank)
  (Decimal.unsigned? body).map fun (value, rest) ↦ (if isNegative then -value else value, rest)

/-- The number that a text begins with, or zero. -/
def numberOf (text : Octets) : Float :=
  match leading? text with
  | some (value, _) => value
  | none => 0.0

/-- The number that a text is as a whole, with blanks around it. -/
def whole? (text : Octets) : Option Float :=
  let body := text.dropWhile isBlank
  let body := if body.getLast?.any isBlank then (body.reverse.dropWhile isBlank).reverse else body
  let begins := body.head?.any fun c ↦ c.isDigit || c == '+' || c == '-' || c == '.'
  let ends := body.getLast?.any fun c ↦ c.isDigit || c == '.'
  if begins && ends then
    match leading? body with
    | some (value, []) => some value
    | _ => none
  else none

/-- The number that a value is. -/
def toNumber : Value → Float
  | unset => 0.0
  | number value => value
  | text octets | read octets => numberOf octets

/-- The number of a value that is compared as one. -/
def numeric? : Value → Option Float
  | unset => some 0.0
  | number value => some value
  | text _ => none
  | read octets => whole? octets

/-- The value holds as a condition. -/
def holds : Value → Bool
  | unset => false
  | number value => value != 0.0
  | text octets => !octets.isEmpty
  | read octets =>
    match whole? octets with
    | some value => value != 0.0
    | none => !octets.isEmpty

/-- The value that tells whether something is so. -/
def ofBool (value : Bool) : Value :=
  number (if value then 1.0 else 0.0)

/-- The value of a natural number. -/
def ofNat (value : Nat) : Value :=
  number (Float.ofNat value)

/-- The greatest whole number. -/
def greatest : Int := 2147483647

/-- The whole number that a number is cut down to, no larger than the greatest one. -/
def truncated (value : Float) : Int :=
  if value.isNaN then -greatest
  else if value ≥ 0.0 then min greatest (value.toUInt64.toNat : Int)
  else max (-greatest) (-((-value).toUInt64.toNat : Int))

/-- The whole number without a sign that a number is cut down to. -/
def cutToNatural (value : Float) : Nat :=
  if value > 0.0 then min 4294967295 value.toUInt64.toNat else 0

/-- The digits of a number that is whole, if it is not too large. -/
def digits? (value : Float) : Option Octets :=
  if value.floor == value && value.abs ≤ 2147483647.0 then
    let size := Number.digits 10 value.abs.toUInt64.toNat
    some (if value < 0.0 then '-' :: size else size)
  else none

end Value

/-- Why a format cannot be filled in. -/
inductive FormatFault
  | lacking
  /-- The conversion with this number is unknown. -/
  | improper (number : Nat)

namespace Value

/-- A width or precision at the front of a format, with the values and the format that are left. -/
def size (values : List Value) (format : Octets) : Int × List Value × Octets :=
  match format with
  | '*' :: rest => (truncated ((values.headD unset).toNumber), values.drop 1, rest)
  | format =>
    let digits := format.takeWhile Char.isDigit
    (Text.digitsValue 10 digits, values, format.drop digits.length)

/-- A number in the place of a directive. What is no number at all has a minus in front. -/
def decimal (directive : Directive) (value : Float) : Octets :=
  if value.isNaN then
    directive.pad ('-' :: if directive.conversion.isUpper then "NAN".toList else "nan".toList)
  else directive.broken .single (Decimal.ofFloat value)

/-- A value in the place of a directive; `plain` is the text of a number. None if the conversion is
unknown. -/
def converted? (plain : Float → Octets) (directive : Directive) (value : Value) : Option Octets :=
  let number := value.toNumber
  match directive.conversion with
  | 's' =>
    let shown := match value with
      | unset => []
      | .number value => plain value
      | text octets | read octets => octets
    some (directive.pad (shown.take (directive.precision.getD shown.length)))
  | 'c' =>
    let code := fun (number : Float) ↦ Char.ofNat (truncated number % 256).toNat
    let octet := match value with
      | unset => '\x00'
      | .number value => code value
      | text octets => octets.headD '\x00'
      | read octets => ((whole? octets).map code).getD (octets.headD '\x00')
    some (directive.pad [octet])
  | conversion =>
    if conversion = 'd' ∨ conversion = 'i' then some (directive.signed (truncated number))
    else if ['o', 'x', 'X', 'u'].contains conversion then
      some (directive.unsigned (cutToNatural number))
    else if ['e', 'g', 'f', 'E', 'G'].contains conversion then
      some (decimal directive number)
    else none

/-- A format with values in the places of its directives, in parts with the last one first; `count`
directives came before. A fault ends it. -/
def filled (plain : Float → Octets) : (left : Nat) → (count : Nat) → List Octets → List Value →
    Octets → List Octets × Option FormatFault
  | 0, _, done, _, _ => (done, none)
  | left + 1, count, done, values, format =>
    let lead := format.takeWhile (· != '%')
    let done := if lead.isEmpty then done else lead :: done
    match format.drop lead.length with
    | [] => (done, none)
    | _ :: '%' :: rest => filled plain left count (['%'] :: done) values rest
    | _ :: rest =>
      let flags := rest.takeWhile fun c ↦ ['-', '0', '+', ' ', '#', '\x27'].contains c
      let (width, values, rest) := size values (rest.drop flags.length)
      let flags := if width < 0 then '-' :: flags else flags
      let (precision, values, rest) := match rest with
        | '.' :: rest =>
          let (precision, values, rest) := size values rest
          (if precision < 0 then none else some precision.natAbs, values, rest)
        | rest => (none, values, rest)
      match values with
      | [] => (done, some .lacking)
      | value :: values =>
        let rest := if rest.head? = some 'l' then rest.dropWhile (· == 'l')
          else rest.dropWhile (· == 'h')
        let directive : Directive := ⟨flags, width.natAbs, precision, rest.headD '\x00'⟩
        match converted? plain directive value with
        | some shown => filled plain left (count + 1) (shown :: done) values (rest.drop 1)
        | none => (done, some (.improper (count + 1)))

/-- The text of a number in a form for those that are not whole. -/
def numberText (form : Octets) (value : Float) : Octets :=
  match digits? value with
  | some digits => digits
  | none =>
    let general := fun (value : Float) ↦
      decimal ⟨[], 0, some 6, 'g'⟩ value
    if form = "%.6g".toList then general value
    else (filled general (form.length + 1) 0 [] [number value] form).1.reverse.flatten

/-- The text of a value in a form for numbers that are not whole. -/
def toText (form : Octets) : Value → Octets
  | unset => []
  | number value => numberText form value
  | text octets | read octets => octets

end Value

namespace Relation

/-- The relation holds for numbers. -/
def ofNumbers (relation : Relation) (first second : Float) : Bool :=
  match relation with
  | less => first < second
  | atMost => first ≤ second
  | equal => first == second
  | differs => first != second
  | atLeast => first ≥ second
  | more => first > second

/-- The relation holds for things in this order. -/
def ofOrder (relation : Relation) (order : Ordering) : Bool :=
  match relation with
  | less => order == .lt
  | atMost => order != .gt
  | equal => order == .eq
  | differs => order != .eq
  | atLeast => order != .lt
  | more => order == .gt

/-- The relation holds for two values: numbers are compared as such, others by their texts. -/
def ofValues (relation : Relation) (form : Octets) (first second : Value) : Bool :=
  match first, second with
  | .number first, .number second => relation.ofNumbers first second
  | first, second =>
    match first.numeric?, second.numeric? with
    | some first, some second => relation.ofNumbers first second
    | _, _ => relation.ofOrder (Octets.order (first.toText form) (second.toText form))

end Relation

end Scaffold.Shell.Awk
