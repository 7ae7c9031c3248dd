import Scaffold.Shell.Utility.Amount

/-!
# Octets as numbers

`od` shows octets as numbers, characters or names, in rows with the place of their first octet in
front (`Dump`). A row that is as the one before is not shown, and a star stands for all such rows.
-/

set_option autoImplicit false

namespace Scaffold.Shell

open Text (Octets)

/-- Items in rows of so many. -/
def rowsOf {α : Type} (size : Nat) : (left : Nat) → List α → List (List α)
  | 0, _ => []
  | _ + 1, [] => []
  | left + 1, items => items.take size :: rowsOf size left (items.drop size)

/-- A text at the right of a field. -/
def atRight (width : Nat) (text : Octets) : Octets :=
  List.replicate (width - text.length) ' ' ++ text

/-- The digits of a number, with zeros in front up to a width. -/
def zeroDigits (base width value : Nat) : Octets :=
  let digits := Number.digits base value
  List.replicate (width - digits.length) '0' ++ digits

/-- How units of octets are shown: their size, the width of their field, their text, and whether the
octets themselves stand at the end of a row. -/
structure UnitForm where
  size : Nat
  width : Nat
  text : Nat → Octets
  hasTrailer : Bool

namespace UnitForm

/-- The names of the first octets. -/
def octetNames : List String :=
  ["nul", "soh", "stx", "etx", "eot", "enq", "ack", "bel", "bs", "ht", "nl", "vt", "ff", "cr", "so",
    "si", "dle", "dc1", "dc2", "dc3", "dc4", "nak", "syn", "etb", "can", "em", "sub", "esc", "fs",
    "gs", "rs", "us", "sp"]

/-- The name of an octet, whose highest bit does not count. -/
def name (value : Nat) : Octets :=
  let low := value % 128
  (octetNames[low]?.map String.toList).getD
    (if low = 127 then "del".toList else [Char.ofNat low])

/-- An octet as a character, or as one that stands for it after a backslash. -/
def character (value : Nat) : Octets :=
  let c := Char.ofNat value
  if value = 0 then ['\\', '0']
  else
    match Quoting.letter? c with
    | some letter => ['\\', letter]
    | none => if Quoting.isPrintable c then [c] else zeroDigits 8 3 value

/-- The form of whole numbers of so many octets. -/
def number (letter : Char) (size : Nat) : UnitForm :=
  let most := fun (base : Nat) ↦ (Number.digits base (Nat.pow 256 size - 1)).length
  match letter with
  | 'x' => ⟨size, 2 * size, zeroDigits 16 (2 * size), false⟩
  | 'o' => ⟨size, most 8, zeroDigits 8 (most 8), false⟩
  | 'u' => ⟨size, most 10, Number.digits 10, false⟩
  | _ =>
    let signed := fun (value : Nat) ↦
      let count := Nat.pow 256 size
      Number.text (if value * 2 < count then (value : Int) else (value : Int) - count)
    ⟨size, most 10 + (if size = 8 then 0 else 1), signed, false⟩

/-- The size that is written after a letter, and what follows it. -/
def sizeAfter (text : Octets) : Nat × Octets :=
  match text with
  | 'C' :: rest => (1, rest)
  | 'S' :: rest => (2, rest)
  | 'I' :: rest => (4, rest)
  | 'L' :: rest => (8, rest)
  | text =>
    let digits := text.takeWhile Char.isDigit
    if digits.isEmpty then (4, text) else (Text.digitsValue 10 digits, text.drop digits.length)

/-- Reads the forms that a text of types stands for. -/
def read (whole : Octets) : (left : Nat) → Octets → Except Octets (List UnitForm)
  | 0, _ | _ + 1, [] => .ok []
  | left + 1, letter :: rest => do
    let wrong := "invalid type string ".toList ++ Quoting.plain whole
    let found : UnitForm × Octets ←
      if letter = 'a' then pure (⟨1, 3, name, false⟩, rest)
      else if letter = 'c' then pure (⟨1, 3, character, false⟩, rest)
      else if ['d', 'o', 'u', 'x'].contains letter then do
        let (size, rest) := sizeAfter rest
        if !([1, 2, 4, 8].contains size) then
          throw (wrong ++ ";\nthis system doesn't provide a ".toList ++ Number.digits 10 size ++
            "-byte integral type".toList)
        pure (number letter size, rest)
      else
        throw ("invalid character '".toList ++ letter :: "' in type string ".toList ++
          Quoting.plain whole)
    let (form, rest) := found
    let hasTrailer := rest.head? == some 'z'
    let rest := if hasTrailer then rest.drop 1 else rest
    return { form with hasTrailer } :: (← read whole left rest)

end UnitForm

/-- How octets are shown. -/
structure Dump where
  forms : List UnitForm
  /-- The text of a place. -/
  address : Nat → Octets
  rowLength : Nat
  showsAll : Bool
  /-- The highest octet of a number comes first. -/
  isBigEndian : Bool

namespace Dump

/-- The value of octets. -/
def value (dump : Dump) (size : Nat) (octets : Octets) : Nat :=
  let octets := octets ++ List.replicate (size - octets.length) '\x00'
  let octets := if dump.isBigEndian then octets.reverse else octets
  octets.foldr (fun c value ↦ value * 256 + c.toNat) 0

/-- The columns of a full row in a form. -/
def columns (dump : Dump) (form : UnitForm) : Nat :=
  (form.width + 1) * (dump.rowLength / form.size)

/-- A row in a form; the columns that are left are shared out among the fields of a full row. -/
def row (dump : Dump) (width : Nat) (form : UnitForm) (octets : Octets) : Octets :=
  let fields := dump.rowLength / form.size
  let padding := width - dump.columns form
  let before := fun (index : Nat) ↦ padding * (fields - index) / fields
  let units := rowsOf form.size (octets.length + 1) octets
  let shown := units.zipIdx.flatMap fun (unit, index) ↦
    atRight (form.width + 1 + (before index - before (index + 1)))
      (form.text (dump.value form.size unit))
  if !form.hasTrailer then shown
  else
    let blanks := (dump.rowLength - octets.length) / form.size
    let gap := blanks * (form.width + 1) + padding * blanks / fields
    shown ++ List.replicate gap ' ' ++ "  >".toList ++
      octets.map (fun c ↦ if Quoting.isPrintable c then c else '.') ++ ['<']

/-- The rows of octets in all forms. -/
def rows (dump : Dump) (width : Nat) :
    (before : Option Octets) → (isHidden : Bool) → (place : Nat) → List Octets → List Octets
  | _, _, _, [] => []
  | before, isHidden, place, octets :: rest =>
    if !dump.showsAll && before == some octets then
      (if isHidden then [] else [['*']]) ++
        dump.rows width before true (place + octets.length) rest
    else
      let lead := dump.address place
      let lines := dump.forms.zipIdx.map fun (form, index) ↦
        (if index = 0 then lead else List.replicate lead.length ' ') ++
          dump.row width form octets
      lines ++ dump.rows width (some octets) false (place + octets.length) rest

/-- Shows octets from a place on. -/
def show_ (dump : Dump) (place : Nat) (octets : Octets) : Octets :=
  let width := dump.forms.foldl (fun width form ↦ max width (dump.columns form)) 0
  let rows := dump.rows width none false place (rowsOf dump.rowLength (octets.length + 1) octets)
  let last := dump.address (place + octets.length)
  ended (rows ++ if last.isEmpty then [] else [last])

/-- Shows the texts in octets that are at least so long and end in a NUL, with their places. -/
def strings (address : Nat → Octets) (least place : Nat) (octets : Octets) : Octets :=
  let (texts, _) := partsOf (· == '\x00') octets
  let (shown, _) := texts.foldl (fun (state : Octets × Nat) text ↦
    let (shown, place) := state
    let tail := (text.reverse.takeWhile Quoting.isPrintable).reverse
    let start := address (place + text.length - tail.length)
    let line := (if start.isEmpty then [] else start ++ [' ']) ++ tail ++ ['\n']
    (if tail.length < least then shown else shown ++ line, place + text.length + 1)) ([], place)
  shown

end Dump

namespace Utility

/-- The types that letters stand for. -/
def dumpTypes : List (Char × String) :=
  [('a', "a"), ('b', "o1"), ('c', "c"), ('d', "u2"), ('D', "u4"), ('h', "x2"), ('H', "x4"),
    ('i', "dI"), ('I', "dL"), ('l', "dL"), ('L', "dL"), ('o', "o2"), ('O', "o4"), ('B', "o2"),
    ('s', "d2"), ('x', "x2"), ('X', "x4")]

/-- The form of the options of `od`. -/
def dumpForm : OptionForm where
  flags := 'v' :: dumpTypes.map (·.1)
  valued := ['A', 't', 'N', 'j', 'w', 'S', '\x01']
  long := [("skip-bytes", 'j'), ("address-radix", 'A'), ("read-bytes", 'N'), ("format", 't'),
    ("output-duplicates", 'v'), ("strings", 'S'), ("endian", '\x01'), ("width", 'w')]
  stopsEarly := false

/-- The text of a place in a base that a letter stands for. -/
def addressOf? (letter : Char) : Option (Nat → Octets) :=
  match letter with
  | 'n' => some fun _ ↦ []
  | 'd' => some (zeroDigits 10 7)
  | 'x' => some (zeroDigits 16 6)
  | 'o' => some (zeroDigits 8 7)
  | _ => none

/-- A place as an operand: an octal number, a decimal one before a point, or a hexadecimal one. -/
def oldPlace? (operand : Octets) : Option Nat :=
  let body := if operand.head? = some '+' then operand.drop 1 else operand
  let factor := if body.getLast? = some 'b' then 512 else 1
  let body := if factor = 512 then body.dropLast else body
  let isDecimal := body.getLast? == some '.'
  let body := if isDecimal then body.dropLast else body
  if body.isEmpty then none
  else if isDecimal then (Number.plain? body).map (· * factor)
  else if ['0', 'x'].isPrefixOf body && (body.drop 2).all Number.isHexadecimal then
    some (Text.digitsValue 16 (body.drop 2) * factor)
  else if body.all Number.isOctal then some (Text.digitsValue 8 body * factor)
  else none

/-- Arguments where options that need no value have their usual one. -/
def withWidths (arguments : List Octets) : List Octets :=
  arguments.map fun word ↦
    if word = "-w".toList then "-w32".toList
    else if word = "--width".toList then "--width=32".toList
    else if word = "--strings".toList then "--strings=3".toList
    else word

/-- Shows octets as numbers in the way that options ask for. -/
def dumped : Utility :=
  ofOptions "od" dumpForm 1 fun task options ↦
    let amounts : AmountForm := { AmountForm.counts with readsBases := true }
    let amount := fun (letter : Char) (form : AmountForm) ↦
      match options.value? letter with
      | none => .ok none
      | some text =>
        match form.read text with
        | .ok value => .ok (some value.toNat)
        | .error fault =>
          let what := if fault = .malformed then "invalid -" else "-"
          let after := if fault = .malformed then [] else " too large".toList
          .error (what.toList ++ letter :: " argument ".toList ++ Quoting.plain text ++ after)
    let settings : Except Octets (List UnitForm × (Nat → Octets) × Nat × Option Nat × Option Nat) :=
      do
      let skipped ← amount 'j' amounts
      let most ← amount 'N' amounts
      let width ← amount 'w' { amounts with units := [], readsBases := false }
      let address ←
        match (options.value? 'A').map fun text ↦ (text, addressOf? (text.headD ' ')) with
        | none => pure (zeroDigits 8 7)
        | some (_, some address) => pure address
        | some (text, none) =>
          throw ("invalid output address radix '".toList ++ text.take 1 ++
            "'; it must be one character from [doxn]".toList)
      let forms ← options.found.mapM fun (letter, text) ↦
        if letter = 't' then UnitForm.read text (text.length + 1) text
        else
          match dumpTypes.lookup letter with
          | some name => UnitForm.read name.toList 3 name.toList
          | none => .ok []
      return (forms.flatten, address, skipped.getD 0, most, width)
    match settings with
    | .error text => task.complain 1 text
    | .ok (forms, address, skipped, most?, width?) =>
      let forms := if forms.isEmpty then [UnitForm.number 'o' 2] else forms
      let isModern := options.found.any fun entry ↦ ['A', 'j', 'N', 't', 'v', 'w'].contains entry.1
      let (operands, skipped) :=
        match isModern, options.operands with
        | false, [operand] =>
          match operand.head? == some '+', oldPlace? operand with
          | true, some place => ([], place)
          | _, _ => ([operand], skipped)
        | false, [first, second] =>
          match second.head?.any fun c ↦ c == '+' || c.isDigit, oldPlace? second with
          | true, some place => ([first], place)
          | _, _ => ([first, second], skipped)
        | _, operands => (operands, skipped)
      let sources := task.sources (Task.operandsOrInput operands)
      let messages := sources.filterMap fun (operand, contents) ↦
        match contents with
        | .ok _ => none
        | .error error => some (task.refusal operand error)
      let whole := sources.flatMap fun source ↦ source.2.toOption.getD []
      let unit := forms.foldl (fun size form ↦ max size form.size) 1
      let rowLength :=
        match width? with
        | some width => if width > 0 && width % unit = 0 then width else unit
        | none => 16
      let warnings :=
        match width? with
        | some width =>
          if width > 0 && width % unit = 0 then []
          else ["warning: invalid width ".toList ++ Number.digits 10 width ++ "; using ".toList ++
            Number.digits 10 unit ++ " instead".toList]
        | none => []
      let messages := warnings.map task.message ++ messages
      let written := messages.map fun message ↦ (2, message)
      let status := if messages.length > warnings.length then 1 else 0
      let readsAll := (Task.operandsOrInput operands).any Task.isInput
      let isOpen := fun (contents : Except SystemError Octets) ↦
        match contents with
        | .ok _ | .error .isDirectory => true
        | .error _ => false
      if !(sources.any fun source ↦ isOpen source.2) then task.finishAll 1 written readsAll
      else if skipped > whole.length then
        let text := "cannot skip past end of combined input".toList
        task.finishAll 1 (written ++ [(2, task.message text)]) readsAll
      else
        let octets := whole.drop skipped
        let octets := (most?.map octets.take).getD octets
        let dump : Dump :=
          ⟨forms, address, rowLength, options.has 'v', options.value? '\x01' == some "big".toList⟩
        let text :=
          match options.value? 'S' with
          | some least => Dump.strings address ((Number.plain? least).getD 3) skipped octets
          | none => dump.show_ skipped octets
        task.finishAll status (written ++ [(1, text)]) readsAll

/-- Shows octets as numbers. -/
def od : Utility :=
  { dumped with
    run := fun task ↦ dumped.run { task with arguments := withWidths task.arguments } }

/-- The utilities that show octets as numbers. -/
def ofDumping : List Utility :=
  [od]

end Utility

end Scaffold.Shell
