import Scaffold.Shell.Number

/-!
# Names in messages and lists

A message shows a name so that nobody mistakes where it begins and ends: between quotes with escapes
(`Quoting.plain`), or in a form that a shell reads back as the same name (`Quoting.shell`,
`Quoting.shellIfNeeded`).

A list shows the names of files in a style (`Quoting.Style.text`): as they are, as a shell reads
them, or with escapes, with or without quotes around them. More characters than those that a style
knows may need an escape, as those that end a name where it is shown.
-/

set_option autoImplicit false

namespace Scaffold.Shell.Quoting

open Text (Octets)

/-- The letter that stands for an octet after a backslash. -/
def letter? (c : Char) : Option Char :=
  [('\x07', 'a'), ('\x08', 'b'), ('\t', 't'), ('\n', 'n'), ('\x0b', 'v'), ('\x0c', 'f'),
    ('\r', 'r')].lookup c

/-- The octet can be printed. -/
def isPrintable (c : Char) : Bool :=
  32 ≤ c.toNat && c.toNat < 127

/-- An octet that cannot be printed, as a letter or three digits after a backslash. -/
def escape (c : Char) : Octets :=
  match letter? c with
  | some letter => ['\\', letter]
  | none =>
    let digits := Number.digits 8 c.toNat
    '\\' :: List.replicate (3 - digits.length) '0' ++ digits

/-- A text in single quotes; a quote and a backslash in it have a backslash in front. -/
def plain (text : Octets) : Octets :=
  let inner := text.flatMap fun c ↦
    if c = '\x27' ∨ c = '\\' then ['\\', c] else if isPrintable c then [c] else escape c
  '\x27' :: inner ++ ['\x27']

/-- The octet means nothing to a shell between double quotes, nor outside quotes unless it is a
blank or a quote. -/
def isHarmless (index : Nat) (c : Char) : Bool :=
  c.isAlphanum || ['%', '+', ',', '-', '.', '/', ':', '@', ']', '_', ' ', '\x27'].contains c ||
    (index == 0 && (c == '~' || c == '#'))

/-- A text in single quotes, where octets that cannot be printed stand between quotes of their own;
`isEscaped` if such a quote is open. -/
def pieces : (isEscaped : Bool) → Octets → Octets
  | _, [] => ['\x27']
  | isEscaped, c :: rest =>
    if !isPrintable c then
      (if isEscaped then [] else "'$'".toList) ++ escape c ++ pieces true rest
    else if c = '\x27' then
      (if isEscaped then "''".toList else []) ++ "'\\''".toList ++ pieces false rest
    else (if isEscaped then "''".toList else []) ++ c :: pieces false rest

/-- A text in quotes as a shell reads it. -/
def shell (text : Octets) : Octets :=
  if text.contains '\x27' && text.zipIdx.all fun (c, index) ↦ isHarmless index c then
    '\x22' :: text ++ ['\x22']
  else '\x27' :: pieces false text

/-- The octet needs no quotes in a text of more than one. -/
def isBare (index : Nat) (c : Char) : Bool :=
  c.isAlphanum || ['%', '+', ',', '-', '.', '/', '@', ']', '_', '\x7b', '\x7d'].contains c ||
    (index > 0 && (c == '~' || c == '#'))

/-- The octets of a text need no quotes. -/
def isBareText (isBareOctet : Nat → Char → Bool) (text : Octets) : Bool :=
  text ≠ [] && text ≠ ['\x7b'] && text ≠ ['\x7d'] &&
    text.zipIdx.all fun (c, index) ↦ isBareOctet index c

/-- A text as a shell reads it, in quotes if it needs them, or if a colon that follows it could be
taken for a part of it. -/
def shellIfNeeded (text : Octets) : Octets :=
  if isBareText isBare text then text else shell text

/-- A text as a shell reads it, in quotes if it needs them. -/
def shellWord (text : Octets) : Octets :=
  if isBareText (fun index c ↦ isBare index c || c == ':') text then text else shell text

end Scaffold.Shell.Quoting

namespace Scaffold.Shell.Quoting

open Text (Octets)

/-- How names are shown. -/
inductive Style
  | literal
  /-- As a shell reads them, in quotes if need be; octets that cannot be printed may be escaped. -/
  | shell (escapes : Bool)
  /-- As a shell reads them, always in quotes. -/
  | shellQuoted (escapes : Bool)
  /-- With escapes between two quotes of a kind. -/
  | quoted (mark : Char)
  /-- With escapes between double quotes if there is something to escape. -/
  | quotedIfNeeded
  /-- With escapes, and without quotes. -/
  | escaped
  deriving DecidableEq, Repr

namespace Style

/-- The words for styles. -/
def words : List (String × Style) :=
  [("literal", literal), ("shell", shell false), ("shell-always", shellQuoted false),
    ("shell-escape", shell true), ("shell-escape-always", shellQuoted true),
    ("c", quoted '\x22'), ("c-maybe", quotedIfNeeded), ("escape", escaped),
    ("locale", quoted '\x27'), ("clocale", quoted '\x22')]

/-- The octet makes a shell take a text for something else than a word. -/
def needsShell (escapes : Bool) (index : Nat) (c : Char) : Bool :=
  if isPrintable c then !(isBare index c || c == ':')
  else escapes || c == '\n' || c == '\r' || c == '\t'

/-- A text in the quotes of a shell. -/
def inShellQuotes (escapes : Bool) (text : Octets) : Octets :=
  if escapes then Quoting.shell text
  else if text.contains '\x27' && text.zipIdx.all fun (c, index) ↦ isHarmless index c then
    '\x22' :: text ++ ['\x22']
  else
    let inner := text.flatMap fun c ↦ if c = '\x27' then "'\\''".toList else [c]
    '\x27' :: inner ++ ['\x27']

/-- An octet with an escape if it cannot be printed, is a backslash, or is one of more. -/
def escapedOctet (more : Char → Bool) (c : Char) : Octets :=
  if !isPrintable c then escape c
  else if c = '\\' || more c then ['\\', c] else [c]

/-- A name in a style, where more octets than usual need an escape. -/
def text (style : Style) (more : Char → Bool) (name : Octets) : Octets :=
  match style with
  | literal => name
  | shell escapes =>
    let isOpen := name == [] || name == ['\x7b'] || name == ['\x7d'] ||
      name.zipIdx.any fun (c, index) ↦ needsShell escapes index c || more c
    if isOpen then inShellQuotes escapes name else name
  | shellQuoted escapes => inShellQuotes escapes name
  | quoted mark =>
    let inner := name.flatMap (escapedOctet fun c ↦ c == mark || more c)
    mark :: inner ++ [mark]
  | quotedIfNeeded =>
    let isOpen := name.any fun c ↦ !isPrintable c || c == '\x22' || more c
    let inner := name.flatMap (escapedOctet (· == '\x22'))
    if isOpen then '\x22' :: inner ++ ['\x22'] else name
  | escaped => name.flatMap (escapedOctet more)

end Style

end Scaffold.Shell.Quoting
