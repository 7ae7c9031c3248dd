import Scaffold.Shell.Decimal
import Scaffold.Shell.Quoting

/-!
# What `echo` and `printf` print

`echo` separates its arguments by spaces and reads escapes in them. `printf` fills its arguments
into a format, which it goes through again as long as arguments are left. An argument that is no
number, or more than one, is filled in as far as it is, with a warning.
-/

set_option autoImplicit false

namespace Scaffold.Shell

open Text (Octets)

/-- The escapes that are known: those of the shell, hexadecimal numbers as well, or characters and
quotes besides. -/
inductive EscapeStyle
  | few
  | more
  | all
  deriving DecidableEq, Repr

/-- What was printed, and whether printing was cut short. -/
structure Printed where
  output : Octets
  isCut : Bool
  deriving DecidableEq, Repr

namespace Printing

/-- The octet written in octal digits. -/
def octalOctet (digits : Octets) : Char :=
  Char.ofNat (Text.digitsValue 8 digits % 256)

/-- The octet of a letter after a backslash. -/
def letterEscape? : Char → Option Char
  | 'a' => some '\x07'
  | 'b' => some '\x08'
  | 'e' => some '\x1b'
  | 'f' => some '\x0c'
  | 'n' => some '\n'
  | 'r' => some '\r'
  | 't' => some '\t'
  | 'v' => some '\x0b'
  | '\\' => some '\\'
  | _ => none

/-- The octets of a character that is told by its number, as they are shown where characters are
octets. -/
def characterText (digits : Octets) : Octets :=
  let code := Text.digitsValue 16 digits
  if code < 128 then [Char.ofNat code]
  else
    let shown := (Number.digits 16 code).map Char.toUpper
    let count := if code < 65536 then 4 else 8
    '\\' :: (if count = 4 then 'u' else 'U') :: List.replicate (count - shown.length) '0' ++ shown

/-- How many octets after a backslash belong to it, and the octets that they stand for. -/
def escape (style : EscapeStyle) (text : Octets) : Nat × Octets :=
  let digits := (text.take 3).takeWhile Number.isOctal
  if !digits.isEmpty then (digits.length, [octalOctet digits])
  else
    match text with
    | c :: rest =>
      let hexadecimal := fun (count : Nat) ↦ (rest.take count).takeWhile Number.isHexadecimal
      if style ≠ .few && c == 'x' && !(hexadecimal 1).isEmpty then
        let digits := hexadecimal 2
        (1 + digits.length, [Char.ofNat (Text.digitsValue 16 digits)])
      else if style = .all && c == 'u' && (hexadecimal 4).length == 4 then
        (5, characterText (hexadecimal 4))
      else if style = .all && c == 'U' && (hexadecimal 8).length == 8 then
        (9, characterText (hexadecimal 8))
      else if style = .all && c == '\x22' then (1, [c])
      else
        match letterEscape? c with
        | some octet => (1, [octet])
        | none => (0, ['\\'])
    | [] => (0, ['\\'])

/-- The text with its escapes read, before which `printed` is put in reverse; `left` bounds its
length. An octal number may have a leading zero more than in a format, and `\c` cuts the printing
short. -/
def unescape (style : EscapeStyle) : (left : Nat) → (printed : Octets) → Octets → Printed
  | 0, printed, _ => ⟨printed.reverse, false⟩
  | _ + 1, printed, [] => ⟨printed.reverse, false⟩
  | left + 1, printed, '\\' :: rest =>
    if rest.head? = some 'c' then ⟨printed.reverse, true⟩
    else
      let hasZero := rest.head? = some '0' ∧ (rest.drop 1).head?.any Number.isOctal
      let extra := if hasZero then 1 else 0
      let (count, octets) := escape style (rest.drop extra)
      unescape style left (octets.reverse ++ printed) (rest.drop (extra + count))
  | left + 1, printed, c :: rest => unescape style left (c :: printed) rest

/-- The text with its escapes read. -/
def unescaped (style : EscapeStyle) (text : Octets) : Printed :=
  unescape style (text.length + 1) [] text

/-- The arguments with their escapes read and spaces between them, and a line end unless told
otherwise. -/
def echoParts (style : EscapeStyle) (endsLine : Bool) : List Octets → Octets
  | [] => if endsLine then ['\n'] else []
  | argument :: rest =>
    let printed := if argument.contains '\\' then unescaped style argument
      else ⟨argument, false⟩
    if printed.isCut then printed.output
    else printed.output ++ (if rest.isEmpty then [] else [' ']) ++
      echoParts style endsLine rest

/-- What `echo` prints. -/
def echo : List Octets → Octets
  | ['-', 'n'] :: rest => echoParts .few false rest
  | arguments => echoParts .few true arguments

/-- How an argument is filled in. -/
structure Directive where
  flags : List Char
  width : Nat
  precision : Option Nat
  conversion : Char
  deriving DecidableEq, Repr

namespace Directive

/-- The directive has a flag. -/
def has (directive : Directive) (flag : Char) : Bool :=
  directive.flags.contains flag

/-- Fills a text up to the width. -/
def pad (directive : Directive) (text : Octets) : Octets :=
  let gap := List.replicate (directive.width - text.length) ' '
  if directive.has '-' then text ++ gap else gap ++ text

/-- Fills a number up to the width: with zeros after its sign where the flags say so. -/
def padNumber (directive : Directive) (allowsZeros : Bool) (sign body : Octets) : Octets :=
  if allowsZeros && directive.has '0' && !directive.has '-' then
    sign ++ List.replicate (directive.width - sign.length - body.length) '0' ++ body
  else directive.pad (sign ++ body)

/-- The sign of a number. -/
def sign (directive : Directive) (isNegative : Bool) : Octets :=
  if isNegative then ['-']
  else if directive.has '+' then ['+']
  else if directive.has ' ' then [' '] else []

/-- The digits of a number, filled up with zeros to the precision; zero has none when none are asked
for. -/
def digits (directive : Directive) (base value : Nat) : Octets :=
  let plain := if value = 0 ∧ directive.precision = some 0 then [] else Number.digits base value
  List.replicate (directive.precision.getD 1 - plain.length) '0' ++ plain

/-- A number with a sign. -/
def signed (directive : Directive) (value : Int) : Octets :=
  directive.padNumber directive.precision.isNone (directive.sign (value < 0))
    (directive.digits 10 value.natAbs)

/-- A number without a sign. -/
def unsigned (directive : Directive) (value : Nat) : Octets :=
  let allowsZeros := directive.precision.isNone
  let isMarked := directive.has '#'
  match directive.conversion with
  | 'o' =>
    let body := directive.digits 8 value
    let lead := if isMarked && body.head? != some '0' then ['0'] else []
    directive.padNumber allowsZeros [] (lead ++ body)
  | 'x' =>
    let lead := if isMarked && value != 0 then ['0', 'x'] else []
    directive.padNumber allowsZeros lead (directive.digits 16 value)
  | 'X' =>
    let lead := if isMarked && value != 0 then ['0', 'X'] else []
    directive.padNumber allowsZeros lead ((directive.digits 16 value).map Char.toUpper)
  | _ => directive.padNumber allowsZeros [] (directive.digits 10 value)

/-- A number that need not be whole, with its hexadecimal digits in a form. -/
def broken (directive : Directive) (form : Decimal.HexadecimalForm) (value : Decimal) : Octets :=
  let isUpper := directive.conversion.isUpper
  let mark := if isUpper then 'E' else 'e'
  let precision := directive.precision.getD 6
  let showsPoint := directive.has '#'
  let cased := fun (text : Octets) ↦ if isUpper then text.map Char.toUpper else text
  match value with
  | .undefined => directive.pad (directive.sign false ++ cased ['n', 'a', 'n'])
  | .infinite isNegative => directive.pad (directive.sign isNegative ++ cased ['i', 'n', 'f'])
  | .ratio isNegative numerator denominator =>
    let isHexadecimal := directive.conversion.toLower = 'a'
    let lead := directive.sign isNegative ++ (if isHexadecimal then cased ['0', 'x'] else [])
    let body :=
      match directive.conversion.toLower with
      | 'a' => cased (Decimal.hexadecimal form directive.precision showsPoint numerator denominator)
      | 'e' => Decimal.scientific mark precision showsPoint numerator denominator
      | 'g' => Decimal.general mark precision showsPoint numerator denominator
      | _ => Decimal.fixed precision showsPoint numerator denominator
    directive.padNumber true lead body

end Directive

/-- Printing with a format: what is left of the arguments, what was printed, in reverse, and the
warnings, the last one first. -/
structure Progress where
  /-- The printing is done by a program of its own. -/
  isExtended : Bool
  arguments : List Octets
  printed : Octets
  /-- What is said about the arguments, each with the number of octets that were printed before. -/
  warnings : List (Nat × Octets)
  hasFailed : Bool

/-- Why printing ends before the format does: it is cut short, or the format is wrong. -/
inductive End
  | cut
  | wrong (message : Octets)

/-- The escapes that are known. -/
def Progress.style (progress : Progress) : EscapeStyle :=
  if progress.isExtended then .all else .few

/-- A part of printing with a format. -/
abbrev Filling := EStateM End Progress

namespace Filling

/-- Prints octets. -/
def put (octets : Octets) : Filling Unit :=
  modify fun progress ↦ { progress with printed := octets.reverse ++ progress.printed }

/-- Takes the next argument, if there is one. -/
def argument? : Filling (Option Octets) := do
  let progress ← get
  set { progress with arguments := progress.arguments.drop 1 }
  return progress.arguments.head?

/-- Warns about an argument. -/
def warn (argument : Octets) (message : String) : Filling Unit :=
  modify fun progress ↦
    { progress with
      warnings := (progress.printed.length, argument ++ Octets.ofText (": " ++ message)) ::
        progress.warnings
      hasFailed := true }

/-- Warns unless the argument was read up to its end. -/
def check (argument rest : Octets) : Filling Unit := do
  if !rest.isEmpty then
    let isNone := rest.length = argument.length
    if (← get).isExtended then
      let quoted := '\x27' :: argument ++ ['\x27']
      warn quoted (if isNone then "expected a numeric value" else "value not completely converted")
    else warn argument (if isNone then "expected numeric value" else "not completely converted")

/-- The code of the character after a quote. -/
def quotedCode? : Octets → Option Nat
  | mark :: rest =>
    if mark = '\x27' ∨ mark = '\x22' then some ((rest.head?.map Char.toNat).getD 0) else none
  | [] => none

/-- The next argument as a number that must lie between two others. -/
def number (least most : Int) : Filling Int := do
  match ← argument? with
  | none => return 0
  | some argument =>
    match quotedCode? argument with
    | some code => return code
    | none =>
      match Number.leading? argument with
      | none =>
        check argument argument
        return 0
      | some (value, rest) =>
        check argument rest
        if rest.isEmpty && (value < least || most < value) then
          let isExtended := (← get).isExtended
          warn (if isExtended then '\x27' :: argument ++ ['\x27'] else argument)
            "Numerical result out of range"
        return max least (min most value)

/-- The number of a text is too large or too small to be held with all its digits. -/
def isOutOfRange (isExtended : Bool) (text : Octets) (value : Decimal) : Bool :=
  let hasDigit := (text.takeWhile fun c ↦ c != 'e' && c != 'E').any fun c ↦ '1' ≤ c && c ≤ '9'
  match value with
  | .infinite _ => hasDigit
  | .ratio _ numerator denominator => 
    hasDigit && numerator * Nat.pow 2 (if isExtended then 16382 else 1022) < denominator
  | .undefined => false

/-- The next argument as a number that need not be whole. -/
def broken : Filling Decimal := do
  match ← argument? with
  | none => return .ratio false 0 1
  | some argument =>
    match quotedCode? argument with
    | some code => return .ratio false code 1
    | none =>
      let isExtended := (← get).isExtended
      match if isExtended then Extended.leading? argument else Decimal.leading? argument with
      | none =>
        check argument argument
        return .ratio false 0 1
      | some (value, rest) =>
        check argument rest
        if rest.isEmpty && isOutOfRange isExtended argument value then
          warn (if isExtended then '\x27' :: argument ++ ['\x27'] else argument)
            "Numerical result out of range"
        return value

/-- A number of a format: digits, or a star that stands for the next argument. -/
def count (text : Octets) : Filling (Int × Octets) := do
  match text with
  | '*' :: rest => return (← number (-Number.greatest) Number.greatest, rest)
  | text =>
    let digits := text.takeWhile Char.isDigit
    return (Text.digitsValue 10 digits, text.drop digits.length)

/-- Reads a directive after its percent sign, and gives what follows it. -/
def directive (text : Octets) : Filling (Directive × Octets) := do
  let flags := text.takeWhile fun c ↦ ['-', '0', '+', ' ', '#'].contains c
  let (width, rest) ← count (text.drop flags.length)
  let flags := if width < 0 then '-' :: flags else flags
  let (precision, rest) ←
    match rest with
    | '.' :: rest => do
      let (precision, rest) ← count rest
      pure (if precision < 0 then none else some precision.natAbs, rest)
    | rest => pure (none, rest)
  let isExtended := (← get).isExtended
  let rest := if isExtended then rest.dropWhile fun c ↦ ['h', 'l', 'L', 'j', 't', 'z'].contains c
    else rest
  match rest with
  | conversion :: rest => return (⟨flags, width.natAbs, precision, conversion⟩, rest)
  | [] => throw (.wrong (Octets.ofText "missing format character"))

/-- Fills in the next argument; `shown` is the directive as it is written. -/
def fill (directive : Directive) (shown : Octets) : Filling Unit := do
  let short := fun (text : Octets) ↦ text.take (directive.precision.getD text.length)
  match directive.conversion with
  | 's' => put (directive.pad (short ((← argument?).getD [])))
  | 'b' =>
    let printed := unescaped (← get).style ((← argument?).getD [])
    put (directive.pad (short printed.output))
    if printed.isCut then throw .cut
  | 'c' => put (directive.pad [(((← argument?).getD []).head?).getD '\x00'])
  | conversion =>
    if ['d', 'i'].contains conversion then
      put (directive.signed (← number (-Number.greatest - 1) Number.greatest))
    else if ['u', 'o', 'x', 'X'].contains conversion then
      let value ← number (-Text.wordLimit + 1) (Text.wordLimit - 1)
      put (directive.unsigned (value % Text.wordLimit).natAbs)
    else if ['e', 'E', 'f', 'F', 'g', 'G', 'a', 'A'].contains conversion then
      let form := if (← get).isExtended then Decimal.HexadecimalForm.full else .single
      put (directive.broken form (← broken))
    else if (← get).isExtended then
      if conversion = 'q' then put (directive.pad (Quoting.shellIfNeeded ((← argument?).getD [])))
      else throw (.wrong ('%' :: shown ++ Octets.ofText ": invalid conversion specification"))
    else throw (.wrong ('%' :: shown ++ Octets.ofText ": invalid directive"))

/-- Goes through a format once; `left` bounds its length. -/
def pass : (left : Nat) → Octets → Filling Unit
  | 0, _ => return
  | _ + 1, [] => return
  | left + 1, '\\' :: rest => do
    let isExtended := (← get).isExtended
    if isExtended && rest.head? = some 'c' then throw .cut
    let (count, octets) := escape (← get).style rest
    put octets
    pass left (rest.drop count)
  | left + 1, '%' :: '%' :: rest => do
    put ['%']
    pass left rest
  | left + 1, '%' :: text => do
    let (directive, rest) ← directive text
    fill directive (text.take (text.length - rest.length))
    pass left rest
  | left + 1, c :: rest => do
    put [c]
    pass left rest

/-- Goes through a format as long as arguments are left and taken; `left` bounds how often. -/
def passes (format : Octets) : (left : Nat) → Filling Unit
  | 0 => return
  | left + 1 => do
    let before := (← get).arguments.length
    pass (format.length + 1) format
    let after := (← get).arguments.length
    if after < before && after > 0 then passes format left
    else if after > 0 && (← get).isExtended then
      let first := ((← get).arguments.headD [])
      modify fun progress ↦
        { progress with
          warnings := (progress.printed.length,
            "warning: ignoring excess arguments, starting with '".toList ++ first ++ ['\x27']) ::
              progress.warnings }

end Filling

/-- What `printf` leaves: what it printed, what it complained about, and its status. -/
structure Filled where
  output : Octets
  /-- The complaints, each with the number of octets that were printed before. -/
  complaints : List (Nat × Octets)
  status : Nat
  deriving DecidableEq, Repr

/-- What `printf` does with a format and arguments. -/
def fill (isExtended : Bool) (format : Octets) (arguments : List Octets) : Filled :=
  let passes := Filling.passes format (arguments.length + 1)
  match passes.run ⟨isExtended, arguments, [], [], false⟩ with
  | .error (.wrong message) progress =>
    let warnings := (progress.printed.length, message) :: progress.warnings
    ⟨progress.printed.reverse, warnings.reverse, 2⟩
  | .ok _ progress | .error .cut progress =>
    ⟨progress.printed.reverse, progress.warnings.reverse, if progress.hasFailed then 1 else 0⟩

/-- What `printf` does with its arguments. -/
def printf : List Octets → Filled
  | ['-', '-'] :: format :: arguments => fill false format arguments
  | [['-', '-']] => ⟨[], [(0, Octets.ofText "usage: printf format [arg ...]")], 2⟩
  | ('-' :: c :: _) :: _ => ⟨[], [(0, Octets.ofText "Illegal option -" ++ [c])], 2⟩
  | format :: arguments => fill false format arguments
  | [] => ⟨[], [(0, Octets.ofText "usage: printf format [arg ...]")], 2⟩

end Printing

end Scaffold.Shell
