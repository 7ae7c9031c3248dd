import Scaffold.Files.Lookup
import Scaffold.Shell.Number
import Scaffold.Text.Blank

/-!
# What is known about files

The rights of a file are a number of twelve bits: who may read, write and run it, with three bits
for the owner, the group and all others, and three special bits above. `Rights.after?` is what a
mode, in digits or in letters, makes of rights.

Besides its contents a file has a time of its last change, rights, and a number that it shares with
the files that it is linked to; and it may be a pipe, whose contents are what was written to it and
not read yet. All this is kept in records (`Records`) beside the files; a file without a record is
as old as the machine and has the usual rights. `changesBetween` is what differs between two states
of the files, from which `Records.follow` finds the records after a change.
-/

set_option autoImplicit false

namespace Scaffold.Shell.Rights

open Text (Octets)

/-- The bits for reading, writing and running a file, for everybody. -/
def plainBits : List (Char × Nat) :=
  [('r', 292), ('w', 146), ('x', 73), ('s', 3072), ('t', 512)]

/-- All bits. -/
def allBits : Nat := 4095

/-- The bits that belong to the owner, the group or the others. -/
def bitsOf (who : Char) : Nat :=
  match who with
  | 'u' => 2496
  | 'g' => 1080
  | 'o' => 519
  | _ => allBits

/-- Somebody may run the file. -/
def isRunnable (rights : Nat) : Bool :=
  rights &&& 73 != 0

/-- The rights that one of owner, group and others has, for everybody. -/
def spread (who : Char) (rights : Nat) : Nat :=
  let shift := if who = 'u' then 64 else if who = 'g' then 8 else 1
  rights / shift % 8 * 73

/-- The rights without some bits. -/
def without (rights bits : Nat) : Nat :=
  rights &&& (allBits - bits &&& allBits)

/-- The bits that letters after an operator stand for. -/
def letterBits (isDirectory : Bool) (rights : Nat) (letters : Octets) : Option Nat :=
  match letters with
  | ['u'] | ['g'] | ['o'] => some (spread (letters.headD 'u') rights)
  | letters => letters.foldlM (fun bits letter ↦
      if letter = 'X' then
        some (if isDirectory || isRunnable rights then bits ||| 73 else bits)
      else (plainBits.lookup letter).map (bits ||| ·)) 0

/-- Applies operators with their letters. -/
def operate (isDirectory : Bool) (mask : Nat) (who : Octets) :
    (left : Nat) → Octets → Nat → Option Nat
  | 0, _, _ => none
  | _ + 1, [], rights => some rights
  | left + 1, sign :: rest, rights => do
    let letters := rest.takeWhile fun c ↦ c != '+' && c != '-' && c != '='
    let bits ← letterBits isDirectory rights letters
    let affected := who.foldl (fun bits c ↦ bits ||| bitsOf c) 0
    let bits := if who.isEmpty then without bits mask else bits &&& affected
    let special := if isDirectory && !letters.contains 's' then 3072 else 0
    let rights ←
      match sign with
      | '+' => some (rights ||| bits)
      | '-' => some (without rights bits)
      | '=' =>
        let kept := (if who.isEmpty then 0 else without allBits affected) ||| special
        some ((rights &&& kept) ||| bits)
      | _ => none
    operate isDirectory mask who left (rest.drop letters.length) rights

/-- What a mode makes of rights; none if it is no mode. Where it does not say whose rights it is
about, it does not give those in the mask. -/
def after? (mode : Octets) (isDirectory : Bool) (mask rights : Nat) : Option Nat :=
  if !mode.isEmpty && mode.all fun c ↦ '0' ≤ c && c ≤ '7' then
    let bits := Text.digitsValue 8 mode
    let kept := if isDirectory && mode.length < 5 then rights &&& 3072 else 0
    if bits > allBits then none else some (bits ||| kept)
  else
    (Text.pieces (· == ',') mode).foldlM (fun rights clause ↦
      let who := clause.takeWhile fun c ↦ ['u', 'g', 'o', 'a'].contains c
      let rest := clause.drop who.length
      if rest.isEmpty then none
      else operate isDirectory mask who (rest.length + 1) rest rights) rights

/-- The three letters of the rights of one kind of users; `special` is shown in the place of the
right to run. -/
def triple (rights : Nat) (isSpecial : Bool) (special : Char) : Octets :=
  let runs := rights % 2 = 1
  [if rights / 4 % 2 = 1 then 'r' else '-', if rights / 2 % 2 = 1 then 'w' else '-',
    if isSpecial then (if runs then special else special.toUpper) else if runs then 'x' else '-']

/-- The rights as nine letters. -/
def text (rights : Nat) : Octets :=
  triple (rights / 64) (rights / 2048 % 2 = 1) 's' ++
    triple (rights / 8) (rights / 1024 % 2 = 1) 's' ++ triple rights (rights / 512 % 2 = 1) 't'

/-- The rights as four octal digits. -/
def digits (rights : Nat) : Octets :=
  let shown := Number.digits 8 rights
  List.replicate (4 - shown.length) '0' ++ shown

end Scaffold.Shell.Rights

namespace Scaffold.Shell

/-- What is known about one file: when it was changed, in microseconds, its rights, the number of
the files that are linked to one another, zero if there are none, and whether it is a pipe. -/
structure FileRecord where
  changed : Int
  rights : Nat
  group : Nat
  isPipe : Bool
  deriving DecidableEq, Repr

/-- The records of files. -/
abbrev Records := List (Location × FileRecord)

/-- The microseconds when the machine was started. -/
def startOfTime : Int := 1767225600000000

/-- The usual rights of an entry. -/
def usualRights (entry : Entry) (mask : Nat) : Nat :=
  match entry with
  | .directory => Rights.without 511 mask
  | .file _ true => Rights.without 511 mask
  | .file _ false => Rights.without 438 mask
  | .link _ => 511

namespace Records

/-- The record of an entry; what is not known is as usual. A record of rights that do not go with
the entry is none. -/
def of (records : Records) (location : Location) (entry : Entry) : FileRecord :=
  let usual : FileRecord := ⟨startOfTime, usualRights entry 18, 0, false⟩
  match records.lookup location, entry with
  | some record, .file _ isExecutable =>
    if Rights.isRunnable record.rights == isExecutable then record
    else { record with rights := usual.rights }
  | some record, _ => record
  | none, _ => usual

/-- The records with one more. -/
def put (records : Records) (location : Location) (record : FileRecord) : Records :=
  (location, record) :: records.filter (·.1 != location)

/-- The records after an entry was changed. -/
def touch (records : Records) (location : Location) (entry : Entry) (now : Int) : Records :=
  records.put location { records.of location entry with changed := now }

end Records

/-- The entries at the end of two lists that are alike are passed over: what is left of the first
list, and of the second one. Lists are given in reverse, and an entry of the first list that is not
in the second one is passed over too. -/
def unlike : List (Location × Entry) → List (Location × Entry) → List Location →
    List Location × List (Location × Entry)
  | _, [], gone => (gone, [])
  | [], after, gone => (gone, after)
  | old :: before, new :: after, gone =>
    if old == new then unlike before after gone
    else unlike before (new :: after) (old.1 :: gone)

/-- The locations that lost their entry between two states of the files, and the entries that are
new or changed. -/
def changesBetween (before after : FileTree) : List Location × List (Location × Entry) :=
  let (gone, new) := unlike before.entries.reverse after.entries.reverse []
  let changed := new.filter fun entry ↦ before.find? entry.1 != some entry.2
  (gone.filter fun location ↦ (after.find? location).isNone, changed)

/-- The records after the files changed. -/
def Records.follow (records : Records) (before after : FileTree) (now : Int) (mask : Nat) :
    Records :=
  let (gone, changed) := changesBetween before after
  let kept := if gone.isEmpty then records else records.filter fun entry ↦ !gone.contains entry.1
  changed.foldl (fun records (location, entry) ↦
    match before.find? location with
    | some _ => records.touch location entry now
    | none => records.put location ⟨now, usualRights entry mask, 0, false⟩) kept

end Scaffold.Shell
