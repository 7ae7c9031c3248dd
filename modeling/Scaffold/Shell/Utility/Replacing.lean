import Scaffold.Shell.Pattern
import Scaffold.Shell.Utility.Basic

/-!
# Replacing octets

`tr` replaces octets by others, removes them, or makes one of several that are alike. Which octets
are meant is written as a set (`OctetSet`): octets and ranges, classes by their names, and octets
that stand for so many of their kind.
-/

set_option autoImplicit false

namespace Scaffold.Shell

open Text (Octets)

/-- An octet of the text of a set, and whether a backslash took its meaning. -/
abbrev SetOctet := Char × Bool

/-- A part of a set. -/
inductive SetPart
  | octet (c : Char)
  | range (first last : Char)
  /-- A class of octets by its name. -/
  | kind (name : Octets)
  /-- The octets that count as one. -/
  | alike (c : Char)
  /-- An octet so often; as often as it takes, if the count is zero. -/
  | again (c : Char) (count : Nat)
  deriving DecidableEq, Repr

/-- The parts of a set in order. -/
abbrev OctetSet := List SetPart

namespace OctetSet

/-- The octets between two. -/
def between (first last : Char) : Octets :=
  (List.range (last.toNat + 1 - first.toNat)).map fun offset ↦ Char.ofNat (first.toNat + offset)

/-- The octets of a named class in ascending order. -/
def classOctets (name : Octets) : Octets :=
  (Step.classRanges (String.ofList name)).flatMap fun (first, last) ↦ between first last

/-- A text with what cannot be printed as escapes. -/
def printable (text : Octets) : Octets :=
  text.flatMap fun c ↦
    if c = '\\' then ['\\', '\\'] else if Quoting.isPrintable c then [c] else Quoting.escape c

/-- What a backslash makes of the octets after it, and the warnings about that. -/
def unescaped : (left : Nat) → Octets → List SetOctet × List String
  | 0, _ => ([], [])
  | _ + 1, [] => ([], [])
  | _ + 1, ['\\'] =>
    ([('\\', false)], ["warning: an unescaped backslash at end of string is not portable"])
  | left + 1, '\\' :: c :: rest =>
    let digits := ((c :: rest).take 3).takeWhile Number.isOctal
    if !digits.isEmpty then
      let value := Text.digitsValue 8 digits
      let isTooLarge := value > 255
      let used := if isTooLarge then digits.take 2 else digits
      let warning := if isTooLarge then
          ["warning: the ambiguous octal escape \\" ++ String.ofList digits ++
            " is being\n\tinterpreted as the 2-byte sequence \\0" ++ String.ofList used ++ ", " ++
            String.ofList (digits.drop 2)]
        else []
      let (others, warnings) := unescaped left ((c :: rest).drop used.length)
      ((Char.ofNat (Text.digitsValue 8 used), true) :: others, warning ++ warnings)
    else
      let known := [('a', '\x07'), ('b', '\x08'), ('f', '\x0c'), ('n', '\n'), ('r', '\r'),
        ('t', '\t'), ('v', '\x0b')]
      let (others, warnings) := unescaped left rest
      (((known.lookup c).getD c, true) :: others, warnings)
  | left + 1, c :: rest =>
    let (others, warnings) := unescaped left rest
    ((c, false) :: others, warnings)

/-- The octet stands bare at the front. -/
def opens (c : Char) (text : List SetOctet) : Bool :=
  text.head? == some (c, false)

/-- What stands in front of a bare mark and a bracket, and what follows them. -/
def closed? (mark : Char) : List SetOctet → Option (Octets × List SetOctet)
  | first :: second :: rest =>
    if first = (mark, false) ∧ second = (']', false) then some ([], rest)
    else (closed? mark (second :: rest)).map fun (inner, after) ↦ (first.1 :: inner, after)
  | _ => none

/-- A bare star, digits and a bare bracket stand at the front. -/
def isCounted (text : List SetOctet) : Bool :=
  opens '*' text && opens ']' ((text.drop 1).dropWhile fun c ↦ c.1.isDigit)

/-- What stands for an octet so often, after an opening bracket, and what follows; none if nothing
does. -/
def counted? : List SetOctet → Except String (Option (SetPart × List SetOctet))
  | (c, _) :: ('*', false) :: rest =>
    let inner := rest.takeWhile (· != (']', false))
    let after := rest.drop (inner.length + 1)
    if inner.length = rest.length then .ok none
    else
      let digits := inner.map (·.1)
      let base := if digits.head? = some '0' then 8 else 10
      let isDigit := if base = 8 then Number.isOctal else Char.isDigit
      let value := Text.digitsValue base digits
      if !digits.all isDigit || value > 9223372036854775807 then
        .error ("invalid repeat count " ++
          String.ofList (Quoting.plain (printable digits)) ++ " in [c*n] construct")
      else .ok (some (.again c value, after))
  | _ => .ok none

/-- The class or the octet that stands between brackets and marks, and what follows it; none if it
may be something else. -/
def named? (text : List SetOctet) : Except String (Option (SetPart × List SetOctet)) :=
  match text with
  | (mark, false) :: rest =>
    if mark != ':' && mark != '=' then .ok none
    else
      match closed? mark rest with
      | none => .ok none
      | some (inner, after) =>
        let shown := String.ofList (printable inner)
        if inner.isEmpty then
          .error (if mark = ':' then "missing character class name '[::]'"
            else "missing equivalence class character '[==]'")
        else if mark = ':' && !(classOctets inner).isEmpty then .ok (some (.kind inner, after))
        else if mark = '=' && inner.length = 1 then .ok (some (.alike (inner.headD ' '), after))
        else if isCounted rest then .ok none
        else if mark = ':' then
          .error ("invalid character class " ++ String.ofList (Quoting.plain shown.toList))
        else .error (shown ++ ": equivalence class operand must be a single character")
  | _ => .ok none

/-- The parts that octets make. -/
def ofOctets : (left : Nat) → List SetOctet → Except String OctetSet
  | 0, _ => .ok []
  | left + 1, text =>
    if text.length < 3 then .ok (text.map fun c ↦ .octet c.1)
    else do
      let bracketed? ←
        if opens '[' text then do
          match ← named? (text.drop 1) with
          | some found => pure (some found)
          | none => counted? (text.drop 1)
        else pure none
      match bracketed?, text with
      | some (part, rest), _ => return part :: (← ofOctets left rest)
      | none, (first, _) :: ('-', false) :: (last, _) :: rest =>
        if last < first then
          throw ("range-endpoints of '" ++ String.ofList (printable [first]) ++ "-" ++
            String.ofList (printable [last]) ++ "' are in reverse collating sequence order")
        return .range first last :: (← ofOctets left rest)
      | none, (c, _) :: rest => return .octet c :: (← ofOctets left rest)
      | none, [] => return []

/-- The octets of a part. -/
def octetsOf : SetPart → Octets
  | .octet c => [c]
  | .range first last => between first last
  | .kind name => classOctets name
  | .alike c => [c]
  | .again c count => List.replicate count c

/-- All octets in order. -/
def octets (set : OctetSet) : Octets :=
  set.flatMap octetsOf

/-- How many parts stand for an octet as often as it takes. -/
def endless (set : OctetSet) : Nat :=
  set.countP fun part ↦ part matches .again _ 0

/-- The set with such a part as long as it takes for a whole length. -/
def stretched (set : OctetSet) (length : Nat) : OctetSet :=
  if set.endless != 1 then set
  else
    let known := set.octets.length
    set.filterMap fun part ↦
      match part with
      | .again c 0 => if known < length then some (.again c (length - known)) else none
      | part => some part

/-- The part is a class of small or of capital letters. -/
def isCase (part : SetPart) : Bool :=
  part == .kind "lower".toList || part == .kind "upper".toList

/-- An octet of a set, with the class of letters that it is the first of. -/
abbrev Beat := Char × Option SetPart

/-- The octets with the classes that begin with them. -/
def beats (set : OctetSet) : List Beat :=
  set.flatMap fun part ↦
    (octetsOf part).zipIdx.map fun (c, index) ↦
      (c, if index = 0 && isCase part then some part else none)

/-- Which octet is replaced by which; classes of letters have to stand side by side. -/
def pairs : (left : Nat) → List Beat → List Beat → Except String (List (Char × Char))
  | 0, _, _ => .ok []
  | left + 1, firsts, (second, kind?) :: seconds =>
    match kind?, firsts with
    | some _, (_, some _) :: _ => do
      let cases := (firsts.take 26).zip (((second, kind?) :: seconds).take 26)
      let rest ← pairs left (firsts.drop 26) (seconds.drop 25)
      return cases.map (fun (one, other) ↦ (one.1, other.1)) ++ rest
    | some _, _ => .error "misaligned [:upper:] and/or [:lower:] construct"
    | none, (first, _) :: firsts => do return (first, second) :: (← pairs left firsts seconds)
    | none, [] => .ok []
  | _ + 1, _, [] => .ok []

/-- The octet that a set is made longer with. -/
def lastOctet? (set : OctetSet) : Except String (Option Char) :=
  match set.getLast? with
  | some (.kind _) =>
    .error ("when translating with string1 longer than string2,\n" ++
      "the latter string must not end with a character class")
  | some (.octet c) => .ok (some c)
  | some (.range _ last) => .ok (some last)
  | some (.again c _) => .ok (some c)
  | some (.alike c) => .ok (some c)
  | none => .ok none

/-- All octets that are none of the given ones. -/
def others (octets : Octets) : Octets :=
  (between '\x00' '\xff').filter fun c ↦ !octets.contains c

/-- Reads a set; warnings come with it. -/
def read (text : Octets) : Except String OctetSet × List String :=
  let (octets, warnings) := unescaped (text.length + 1) text
  (ofOctets (octets.length + 1) octets, warnings)

end OctetSet

/-- What `tr` is to do. -/
structure Replacement where
  isOpposite : Bool
  deletes : Bool
  squeezes : Bool
  truncates : Bool

namespace Replacement

/-- The table of octets for two sets; the first one is all others if it is the opposite. -/
def table (order : Replacement) (first second : OctetSet) :
    Except String (List (Char × Char)) := do
  let source := if order.isOpposite then OctetSet.others first.octets else first.octets
  let isShort := source.length > second.octets.length
  let hasKind := fun (set : OctetSet) ↦ set.any fun part ↦ part matches .kind _
  if second.any fun part ↦ part matches .alike _ then
    throw "[=c=] expressions may not appear in string2 when translating"
  if second.any fun part ↦ (part matches .kind _) && !OctetSet.isCase part then
    throw ("when translating, the only character classes that may appear in\n" ++
      "string2 are 'upper' and 'lower'")
  let aligned ←
    if order.isOpposite || !hasKind second then pure []
    else OctetSet.pairs (first.octets.length + 1) first.beats second.beats
  let target ←
    if !isShort || order.truncates then pure second.octets
    else
      match ← OctetSet.lastOctet? second with
      | none => throw "when not truncating set1, string2 must be non-empty"
      | some last =>
        pure (second.octets ++ List.replicate (source.length - second.octets.length) last)
  let isOne := target.all fun c ↦ target.head? == some c
  if order.isOpposite && hasKind first && !(target.length = source.length && isOne) then
    throw ("when translating with complemented character classes,\n" ++
      "string2 must map all characters in the domain to one")
  if aligned.isEmpty then return (source.zip target).reverse
  let rest := (source.zip target).drop aligned.length
  return (aligned ++ rest).reverse

/-- A text in which octets that are alike and follow one another are one. -/
def squeezed (test : Char → Bool) (text : Octets) : Octets :=
  (text.foldl (fun (state : Octets × Option Char) c ↦
    if test c && state.2 == some c then state else (c :: state.1, some c)) ([], none)).1.reverse

/-- The change of texts that one or two sets ask for. -/
def change (order : Replacement) (first : OctetSet) (second? : Option OctetSet) :
    Except String (Octets → Octets) := do
  let source := if order.isOpposite then OctetSet.others first.octets else first.octets
  let isMember := fun (octets : Octets) ↦
    let table := (List.range 256).toArray.map fun code ↦ octets.contains (Char.ofNat code)
    fun (c : Char) ↦ table.getD c.toNat false
  if first.endless > 0 then
    throw "the [c*] repeat construct may not appear in string1"
  let second? := second?.map fun second ↦ second.stretched source.length
  if second?.any fun second ↦ second.endless > 1 then
    throw "only one [c*] repeat construct may appear in string2"
  match second? with
  | none =>
    let isSource := isMember source
    return if order.deletes then List.filter fun c ↦ !isSource c else squeezed isSource
  | some second =>
    if order.deletes then
      if second.any fun part ↦ part matches .again _ 0 then
        throw "the [c*] construct may appear in string2 only when translating"
      let isSource := isMember source
      let isTarget := isMember second.octets
      return fun text ↦ squeezed isTarget (text.filter fun c ↦ !isSource c)
    else
      let table ← order.table first second
      let image := (List.range 256).toArray.map fun code ↦
        (table.lookup (Char.ofNat code)).getD (Char.ofNat code)
      let isTarget := isMember (table.map (·.2) ++ second.octets)
      return fun text ↦
        let text := text.map fun c ↦ image.getD c.toNat c
        if order.squeezes then squeezed isTarget text else text

end Replacement

namespace Utility

/-- Replaces or removes octets. -/
def tr : Utility :=
  ofOptions "tr" ⟨['A', 'c', 'C', 'd', 's', 't'], [],
    [("complement", 'c'), ("delete", 'd'), ("squeeze-repeats", 's'), ("truncate-set1", 't')], true⟩
    1 fun task options ↦
      let order : Replacement :=
        ⟨options.has 'c' || options.has 'C', options.has 'd', options.has 's', options.has 't'⟩
      let least := if order.deletes == order.squeezes then 2 else 1
      let most := if order.deletes && !order.squeezes then 1 else 2
      let quoted := fun (text : Octets) ↦ String.ofList (Quoting.plain text)
      let operands := options.operands
      match operands[most]?, operands with
      | _, [] => task.misuse 1 "missing operand"
      | some extra, operands =>
        task.misuse 1 ("extra operand " ++ quoted extra ++ if operands.length = 2 then
          "\nOnly one string may be given when deleting without squeezing repeats." else "")
      | none, first :: rest =>
        if operands.length < least then
          task.misuse 1 ("missing operand after " ++ quoted first ++
            "\nTwo strings must be given when " ++
            (if order.squeezes then "both deleting and squeezing repeats." else "translating."))
        else
          let (source, warnings) := OctetSet.read first
          let (target, more) : Except String (Option OctetSet) × List String :=
            match source, rest with
            | .ok _, second :: _ =>
              let (target, more) := OctetSet.read second
              (target.map some, more)
            | _, _ => (.ok none, [])
          let change := do order.change (← source) (← target)
          let told := (warnings ++ more).map fun text ↦ (2, task.message text.toList)
          match change with
          | .error text => task.finishAll 1 (told ++ [(2, task.message text.toList)]) false
          | .ok change =>
            if task.hasInput then task.finishAll 0 (told ++ [(1, change task.input)]) true
            else
              let text := "read error: " ++ SystemError.badDescriptor.reason
              task.finishAll 1 (told ++ [(2, task.message text.toList)]) false

/-- The utilities that replace octets. -/
def ofReplacing : List Utility :=
  [tr]

end Utility

end Scaffold.Shell
