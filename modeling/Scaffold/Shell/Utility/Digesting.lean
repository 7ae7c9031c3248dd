import Scaffold.Shell.Digest
import Scaffold.Shell.Utility.Basic
import Scaffold.Shell.Utility.Encoding

/-!
# Digests of files

Utilities that show the digests of files, and that check whether files still have the digests that
lines tell (`DigestLine.ofText?`). A name that would not fit on a line is written with backslashes.
-/

set_option autoImplicit false

namespace Scaffold.Shell.Utility

open Text (Octets)

/-! ### Lines -/

/-- What is told by a line: the kind of digest, if it is named, the digest and the name of a
file. -/
structure DigestLine where
  kind : Option DigestKind
  digest : Octets
  name : Octets

namespace DigestLine

/-- The name as a line shows it, and whether it has backslashes for that. -/
def escapedName (name : Octets) : Octets × Bool :=
  let needs := name.any fun c ↦ c == '\\' || c == '\n' || c == '\r'
  if !needs then (name, false)
  else
    (name.flatMap fun c ↦
      if c = '\\' then ['\\', '\\']
      else if c = '\n' then ['\\', 'n']
      else if c = '\r' then ['\\', 'r']
      else [c], true)

/-- The name that a line shows with backslashes. -/
def unescapedName : Octets → Option Octets
  | [] => some []
  | '\\' :: 'n' :: rest => (unescapedName rest).map ('\n' :: ·)
  | '\\' :: 'r' :: rest => (unescapedName rest).map ('\r' :: ·)
  | '\\' :: '\\' :: rest => (unescapedName rest).map ('\\' :: ·)
  | c :: rest => if c = '\\' then none else (unescapedName rest).map (c :: ·)

/-- The kind whose name is at the front of a text before a blank, and what follows them. -/
def kindOf? (kinds : List DigestKind) (text : Octets) : Option (DigestKind × Octets) :=
  let name := text.takeWhile fun c ↦ c != ' ' && c != '('
  let rest := (text.drop name.length).dropWhile (· == ' ')
  let (stem, length) := (name.takeWhile (· != '-'), name.dropWhile (· != '-'))
  kinds.findSome? fun kind ↦
    if rest.head? != some '(' then none
    else if kind.tag.toList == name then some (kind, rest)
    else
      match kind, Number.plain? (length.drop 1) with
      | .mixed _, some bits =>
        if stem == "BLAKE2b".toList && bits % 8 = 0 && 0 < bits && bits ≤ 512 then
          some (.mixed (bits / 8), rest)
        else none
      | _, _ => none

/-- The line that a text is; one that names its kind names one of the given ones. -/
def ofText? (kinds : List DigestKind) (text : Octets) : Option DigestLine := do
  let text := text.dropWhile fun c ↦ c == ' ' || c == '\t'
  let isEscaped := text.head? == some '\\'
  let text := if isEscaped then text.drop 1 else text
  let nameOf := fun (name : Octets) ↦ if isEscaped then unescapedName name else some name
  match kindOf? kinds text with
  | some (kind, rest) =>
    let back := rest.reverse.dropWhile (· != ')')
    let after := (rest.drop back.length).dropWhile (· == ' ')
    if back.isEmpty || after.head? != some '=' then none
    let digest := (after.drop 1).dropWhile (· == ' ')
    let isWhole := digest.length = 2 * kind.length && digest.all Number.isHexadecimal
    if !isWhole then none
    return ⟨some kind, digest, ← nameOf ((back.drop 1).reverse.drop 1)⟩
  | none =>
    let kind ← kinds.find? fun kind ↦
      let digest := text.take (2 * kind.length)
      digest.length = 2 * kind.length && digest.all Number.isHexadecimal &&
        (text[2 * kind.length]?).any fun c ↦ c == ' ' || c == '\t'
    let digest := text.take (2 * kind.length)
    let name := text.drop (2 * kind.length + 1)
    let name := if (name.head?.any fun c ↦ c == ' ' || c == '*') && 1 < name.length then name.drop 1
      else name
    if name.isEmpty then none
    return ⟨none, digest, ← nameOf name⟩

end DigestLine

/-! ### Showing digests -/

/-- How digests are shown. -/
structure DigestStyle where
  kind : DigestKind
  isTagged : Bool
  isBinary : Bool
  endsInZero : Bool

/-- The line for the digest of a text; one of the input has no name if it is not asked for. -/
def DigestStyle.line (style : DigestStyle) (text : Octets) (name : Option Octets) : Octets :=
  let ending := if style.endsInZero then ['\x00'] else ['\n']
  let digits := Number.digits 10
  let named := (name.map (' ' :: ·)).getD []
  let digest := style.kind.digest text
  let number := WordSize.ofOctets .highestFirst digest
  let blocks := fun (size : Nat) ↦ (text.length + size - 1) / size
  let padded := fun (width : Nat) (filler : Char) (digits : Octets) ↦
    List.replicate (width - digits.length) filler ++ digits
  match style.kind with
  | .turned =>
    padded 5 '0' (digits number) ++ ' ' :: padded 5 ' ' (digits (blocks 1024)) ++ named ++ ending
  | .folded => digits number ++ ' ' :: digits (blocks 512) ++ named ++ ending
  | .remainder => digits number ++ ' ' :: digits text.length ++ named ++ ending
  | kind =>
    let name := name.getD ['-']
    let (name, isEscaped) :=
      if style.endsInZero then (name, false) else DigestLine.escapedName name
    let shown := Digest.hexadecimal digest
    (if isEscaped then ['\\'] else []) ++
      (if style.isTagged then kind.tag.toList ++ " (".toList ++ name ++ ") = ".toList ++ shown
      else shown ++ (if style.isBinary then " *" else "  ").toList ++ name) ++ ending

/-- Shows the digests of files. -/
def DigestStyle.show (style : DigestStyle) (task : Task) (operands : List Octets) : Effect :=
  let isNamed := !operands.isEmpty || !style.kind.isSum
  let written := (task.sources (Task.operandsOrInput operands)).map fun (operand, contents) ↦
    match contents with
    | .ok text => (1, style.line text (if isNamed then some operand else none))
    | .error error => (2, task.refusal operand error)
  task.finishAll (if written.any (·.1 == 2) then 1 else 0) written
    ((Task.operandsOrInput operands).any Task.isInput)

/-! ### Checking digests -/

/-- What a check says. -/
structure DigestCheck where
  kinds : List DigestKind
  ignoresMissing : Bool
  isQuiet : Bool
  tellsStatus : Bool
  isStrict : Bool
  warns : Bool

/-- What a check found: what is told, and how many lines were of each sort. -/
structure DigestFinding where
  written : List (Nat × Octets)
  right : Nat
  wrong : Nat
  unread : Nat
  malformed : Nat
  matched : Nat

namespace DigestCheck

/-- Checks a line. -/
def line (check : DigestCheck) (task : Task) (source : Octets) (found : DigestFinding)
    (line : Octets × Nat) : DigestFinding :=
  let tell := fun (found : DigestFinding) (written : List (Nat × Octets)) ↦
    { found with written := written.reverse ++ found.written }
  let (text, index) := line
  if text.isEmpty || text.head? = some '#' then found
  else
    match DigestLine.ofText? check.kinds text with
    | none =>
      let kind := (check.kinds.head?.map (·.tag)).getD ""
      let warning := Quoting.shellIfNeeded source ++ ": ".toList ++ Number.digits 10 (index + 1) ++
        (": improperly formatted " ++ kind ++ " checksum line").toList
      let found := { found with malformed := found.malformed + 1 }
      if check.warns then tell found [(2, task.message warning)] else found
    | some line =>
      let found := { found with right := found.right + 1 }
      let (name, isEscaped) := DigestLine.escapedName line.name
      let shown := (if isEscaped then ['\\'] else []) ++ name
      let result := fun (text : String) ↦
        if check.tellsStatus then [] else [(1, shown ++ (": " ++ text ++ "\n").toList)]
      match task.contents line.name with
      | .error error =>
        if check.ignoresMissing && error = .notFound then found
        else
          tell { found with unread := found.unread + 1 }
            ((2, task.refusal line.name error) :: result "FAILED open or read")
      | .ok contents =>
        let kind := line.kind <|> check.kinds.find? fun kind ↦ 2 * kind.length = line.digest.length
        let digest := (kind.map fun kind ↦ Digest.hexadecimal (kind.digest contents)).getD []
        if digest == line.digest.map Char.toLower then
          let found := { found with matched := found.matched + 1 }
          if check.isQuiet then found else tell found (result "OK")
        else tell { found with wrong := found.wrong + 1 } (result "FAILED")

/-- What is said at the end about so many lines. -/
def warning (count : Nat) (one many : String) : Octets :=
  "WARNING: ".toList ++ Number.digits 10 count ++ ' ' :: (if count = 1 then one else many).toList

/-- Checks the lines of a file: what is told, and whether all is right. -/
def file (check : DigestCheck) (task : Task) (source : Octets) (text : Octets) :
    List (Nat × Octets) × Bool :=
  let found := (plainLines text).zipIdx.foldl (check.line task source) ⟨[], 0, 0, 0, 0, 0⟩
  let shown := if source == ['-'] then "'standard input'".toList else Quoting.shellIfNeeded source
  let say : Nat → Octets → List (Nat × Octets) := fun count text ↦
    if count = 0 then [] else [(2, task.message text)]
  if found.right = 0 then
    let none_ := shown ++ ": no properly formatted checksum lines found".toList
    (found.written.reverse ++ [(2, task.message none_)], false)
  else
    let warnings :=
      if check.tellsStatus then []
      else
        say found.malformed
          (warning found.malformed "line is improperly formatted"
            "lines are improperly formatted") ++
        say found.unread
          (warning found.unread "listed file could not be read" "listed files could not be read") ++
        say found.wrong
          (warning found.wrong "computed checksum did NOT match"
            "computed checksums did NOT match") ++
        (if check.ignoresMissing && found.matched = 0 then
          [(2, task.message (shown ++ ": no file was verified".toList))] else [])
    (found.written.reverse ++ warnings, found.matched ≠ 0 && found.wrong = 0 && found.unread = 0 &&
      !(check.isStrict && found.malformed ≠ 0))

/-- Checks the lines of files. -/
def run (check : DigestCheck) (task : Task) (operands : List Octets) : Effect :=
  let operands := Task.operandsOrInput operands
  let results := (task.sources operands).map fun (operand, contents) ↦
    match contents with
    | .ok text => check.file task operand text
    | .error error => ([(2, task.refusal operand error)], false)
  task.finishAll (if results.all (·.2) then 0 else 1) (results.flatMap (·.1))
    (operands.any Task.isInput)

end DigestCheck

/-! ### Options -/

/-- The options that only a check knows, each with its letter. -/
def checkOptions : List (String × Char) :=
  [("ignore-missing", '\x03'), ("status", '\x05'), ("warn", 'w'), ("quiet", '\x04'),
    ("strict", '\x06')]

/-- The form of the options; `cksum` has others than the utilities for one kind of digest, and a
length is only told where it may be. -/
def digestForm (isGeneral isSized : Bool) : OptionForm where
  flags := (if isGeneral then ['\x09', '\x0a', 'b', 't'] else ['b', 't']) ++
    ['c', 'z', 'w', '\x01', '\x03', '\x04', '\x05', '\x06']
  valued := (if isGeneral then ['a'] else []) ++ if isSized then ['l'] else []
  long := [("check", 'c'), ("zero", 'z'), ("tag", '\x01')] ++ checkOptions ++
    (if isSized then [("length", 'l')] else []) ++
    if isGeneral then
      [("algorithm", 'a'), ("untagged", '\x09'), ("debug", '\x0a')]
    else [("binary", 'b'), ("text", 't')]
  stopsEarly := false

/-- What of the options does not go together. -/
def digestConflict? (options : Options) (isGeneral : Bool) : Option String :=
  let checks := options.has 'c'
  let needless := checkOptions.find? fun entry ↦ options.has entry.2
  if options.has '\x01' && !isGeneral && options.has 't' then
    some "--tag does not support --text mode"
  else if options.has 'z' && checks then
    some "the --zero option is not supported when verifying checksums"
  else if options.has '\x01' && checks && !isGeneral then
    some "the --tag option is meaningless when verifying checksums"
  else if checks && (options.has 'b' || options.has 't') then
    some "the --binary and --text options are meaningless when verifying checksums"
  else if checks then none
  else
    needless.map fun entry ↦
      "the --" ++ entry.1 ++ " option is meaningful only when verifying checksums"

/-- The kind with the length that an option gives, or what is wrong with it. -/
def sizedKind (kind : DigestKind) (options : Options) : Except (List String) DigestKind :=
  match options.value? 'l', kind with
  | none, kind => .ok kind
  | some text, .mixed _ =>
    let shown := "invalid length: " ++ Octets.toText (Quoting.plain text)
    match Number.plain? text with
    | none => .error [shown]
    | some bits =>
      if bits > 512 then
        .error [shown, "maximum digest length for 'BLAKE2b' is 512 bits"]
      else if bits % 8 ≠ 0 then .error [shown, "length is not a multiple of 8"]
      else .ok (.mixed (if bits = 0 then DigestKind.mixedLength else bits / 8))
  | some _, _ => .error ["--length is only supported with --algorithm=blake2b"]

/-- Shows or checks digests of a kind. -/
def digestOf (kind : DigestKind) (isGeneral : Bool) (task : Task) (options : Options) : Effect :=
  match digestConflict? options isGeneral, sizedKind kind options with
  | some wrong, _ => task.misuse 1 wrong
  | none, .error texts =>
    task.finishAll 1 (texts.map fun text ↦ (2, task.message text.toList)) false
  | none, .ok kind =>
    if options.has 'c' then
      let named := (DigestKind.names.map (·.2)).filter (! ·.isSum)
      let check : DigestCheck :=
        { kinds := if isGeneral && !options.has 'a' then named else [kind]
          ignoresMissing := options.has '\x03'
          isQuiet := options.has '\x04'
          tellsStatus := options.has '\x05'
          isStrict := options.has '\x06'
          warns := options.has 'w' }
      if kind.isSum && options.has 'a' then
        task.complain 1 "--check is not supported with --algorithm=\x7bbsd,sysv,crc\x7d".toList
      else check.run task options.operands
    else
      let style : DigestStyle :=
        { kind
          isTagged := if isGeneral then !options.has '\x09' else options.has '\x01'
          isBinary := options.has 'b' && !isGeneral
          endsInZero := options.has 'z' }
      style.show task options.operands

/-- The utility for a kind of digest. -/
def digestUtility (name : String) (kind : DigestKind) : Utility :=
  ofOptions name (digestForm false (kind = .mixed DigestKind.mixedLength)) 1 (digestOf kind false)

/-- The utility for all kinds of digests. -/
def cksum : Utility :=
  ofOptions "cksum" (digestForm true true) 1 fun task options ↦
    let name := (options.value? 'a').getD "crc".toList
    match DigestKind.names.lookup (Octets.toText name) with
    | none => task.misuse 1 (wrongChoice "--algorithm" DigestKind.names false name)
    | some kind => digestOf kind true task options

/-- The utility for plain sums. -/
def sum : Utility :=
  ofOptions "sum" ⟨['r', 's'], [], [("sysv", 's')], false⟩ 1 fun task options ↦
    let isFolded := (options.found.getLast?.map (·.1)) == some 's'
    let kind : DigestKind := if isFolded then .folded else .turned
    let style : DigestStyle := ⟨kind, true, false, false⟩
    style.show task options.operands

/-- The utilities for digests. -/
def ofDigesting : List Utility :=
  [cksum, sum, digestUtility "b2sum" (.mixed DigestKind.mixedLength),
    digestUtility "md5sum" .message,
    digestUtility "sha1sum" .secure1, digestUtility "sha224sum" .secure224,
    digestUtility "sha256sum" .secure256, digestUtility "sha384sum" .secure384,
    digestUtility "sha512sum" .secure512]

end Scaffold.Shell.Utility
