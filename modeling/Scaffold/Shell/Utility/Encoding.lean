import Scaffold.Shell.Utility.Dumping

/-!
# Octets in other digits

`base64` and `base32` show octets in the digits of a greater base, and read them: a group of octets
makes a group of digits, and signs of padding fill the last group (`DigitScheme`).
-/

set_option autoImplicit false

namespace Scaffold.Shell

open Text (Octets)

/-- How octets are written as digits. -/
structure DigitScheme where
  /-- The digits in order; there are as many as so many bits tell apart. -/
  digits : Octets
  bits : Nat
  /-- The octets of a group. -/
  octets : Nat
  /-- The digits of a group. -/
  size : Nat
  /-- What fills the last group. -/
  padding : Char
  deriving Repr

namespace DigitScheme

/-- The octets between two. -/
def range (first last : Char) : Octets :=
  (List.range (last.toNat + 1 - first.toNat)).map fun offset ↦ Char.ofNat (first.toNat + offset)

/-- Base 64. -/
def base64 : DigitScheme :=
  ⟨range 'A' 'Z' ++ range 'a' 'z' ++ range '0' '9' ++ ['+', '/'], 6, 3, 4, '='⟩

/-- Base 32. -/
def base32 : DigitScheme :=
  ⟨range 'A' 'Z' ++ range '2' '7', 5, 5, 8, '='⟩

/-- The digits that a last group of octets takes. -/
def sizeFor (scheme : DigitScheme) (octets : Nat) : Nat :=
  (octets * 8 + scheme.bits - 1) / scheme.bits

/-- The digits of octets. -/
def encode (scheme : DigitScheme) (octets : Octets) : Octets :=
  let base := scheme.digits.length
  let table := scheme.digits.toArray
  (rowsOf scheme.octets (octets.length + 1) octets).flatMap fun group ↦
    let value := (group ++ List.replicate (scheme.octets - group.length) '\x00').foldl
      (fun value c ↦ value * 256 + c.toNat) 0
    let digit := fun (index : Nat) ↦
      table.getD (value / Nat.pow base (scheme.size - 1 - index) % base) '='
    let used := scheme.sizeFor group.length
    (List.range used).map digit ++ List.replicate (scheme.size - used) scheme.padding

/-- The octets that the digits of a group give. -/
def octetsOf (scheme : DigitScheme) (digits : List Nat) : Octets :=
  let base := scheme.digits.length
  let value := (digits ++ List.replicate (scheme.size - digits.length) 0).foldl
    (fun value digit ↦ value * base + digit) 0
  let count := digits.length * scheme.bits / 8
  (List.range count).map fun index ↦
    Char.ofNat (value / Nat.pow 256 (scheme.octets - 1 - index) % 256)

/-- The octets of a text of digits, and whether all of it could be read. A digit stands for no more
bits than octets need, and padding ends a text. -/
def decode (scheme : DigitScheme) : (left : Nat) → Octets → Octets × Bool
  | 0, _ | _ + 1, [] => ([], true)
  | left + 1, text =>
    let group := text.take scheme.size
    let digits := group.takeWhile (· != scheme.padding)
    let values := digits.filterMap fun c ↦ scheme.digits.idxOf? c
    let value := values.foldl (fun value digit ↦ value * scheme.digits.length + digit) 0
    let count := digits.length
    let fits := (List.range (scheme.octets + 1)).any fun octets ↦
      octets > 0 && scheme.sizeFor octets = count
    let isWhole := group.length = scheme.size &&
      (group.drop count).all (· == scheme.padding) && fits && values.length = count &&
      (count < scheme.size || value < Nat.pow 256 scheme.octets)
    if isWhole then
      let (octets, isRead) := scheme.decode left (text.drop scheme.size)
      (scheme.octetsOf values ++ octets, isRead)
    else
      let known := (digits.takeWhile scheme.digits.contains).filterMap fun c ↦
        scheme.digits.idxOf? c
      let isUseless := scheme.size = 8 && group.length < 8
      (if isUseless then [] else scheme.octetsOf known, false)

end DigitScheme

namespace Utility

/-- What the digits of a text are decoded to, or what octets are encoded as. -/
def recoded (task : Task) (options : Options) (scheme : DigitScheme) : Effect :=
  match options.operands with
  | _ :: extra :: _ =>
    task.misuse 1 ("extra operand " ++ String.ofList (Quoting.plain extra))
  | operands =>
    let source := operands.headD ['-']
    match (options.value? 'w').map Number.plain? with
    | some none =>
      task.complain 1 ("invalid wrap size: ".toList ++
        Quoting.plain ((options.value? 'w').getD []))
    | width? =>
      match task.contents source with
      | .error .isDirectory => task.complain 1 "read error: Is a directory".toList
      | .error error => task.finishAll 1 [(2, task.refusal source error)] false
      | .ok text =>
        if options.has 'd' then
          let isDigit := fun (c : Char) ↦ c == '=' || scheme.digits.contains c
          let digits := text.filter fun c ↦ if options.has 'i' then isDigit c else c != '\n'
          let (octets, isRead) := scheme.decode (digits.length + 1) digits
          let complaint := if isRead then [] else [(2, task.message "invalid input".toList)]
          task.finishAll (if isRead then 0 else 1) ((1, octets) :: complaint) (Task.isInput source)
        else
          let shown := scheme.encode text
          let width := (width?.bind id).getD 76
          let output := if width = 0 then shown else ended (rowsOf width (shown.length + 1) shown)
          task.finishAll 0 [(1, output)] (Task.isInput source)

/-- A utility of one scheme. -/
def recoding (name : String) (scheme : DigitScheme) : Utility :=
  ofOptions name ⟨['d', 'i'], ['w'],
    [("decode", 'd'), ("ignore-garbage", 'i'), ("wrap", 'w')], false⟩ 1
    fun task options ↦ recoded task options scheme

/-- The utilities that show octets in other digits. -/
def ofEncoding : List Utility :=
  [recoding "base64" .base64, recoding "base32" .base32]

end Utility

end Scaffold.Shell
