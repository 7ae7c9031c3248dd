import Scaffold.Files.Lookup
import Scaffold.Shell.Record

/-!
# Conditions

The conditions of `test`: comparisons of texts and numbers, questions about files, and their
negations, conjunctions and alternatives. A condition of three words whose second is a comparison
is that comparison, and one of three or four words that begins with a negation is the opposite of
the rest; otherwise it is read from left to right. A word that could be a question about nothing is
a text, which holds unless it is empty.
-/

set_option autoImplicit false

namespace Scaffold.Shell.Condition

open Text (Octets)

/-- The files that a condition can ask about. -/
structure Files where
  /-- A question about one file, named by its letter. -/
  has : Char → Octets → Bool
  /-- The two are the same file. -/
  isSame : Octets → Octets → Bool
  /-- The first file was changed after the second one. -/
  isNewer : Octets → Octets → Bool

/-- The devices. -/
def devices : List String :=
  ["/dev/null", "/dev/full", "/dev/zero", "/dev/stdin", "/dev/stdout", "/dev/stderr", "/dev/tty",
    "/dev/random", "/dev/urandom"]

/-- What a condition can ask about the files of a tree, seen from a directory. -/
def Files.of (tree : FileTree) (records : Records) (here : Location) : Files :=
  let locate := fun (followsLast : Bool) (operand : Octets) ↦
    match tree.locate here ⟨Octets.toText operand⟩ followsLast with
    | .error _ => none
    | .ok location => (tree.find? location).map fun entry ↦ (location, entry)
  let record := fun (operand : Octets) ↦
    (locate true operand).map fun (location, entry) ↦ records.of location entry
  { has := fun kind operand ↦
      let followsLast := kind != 'h' && kind != 'L'
      if devices.contains (Octets.toText operand) then ['e', 'r', 'w', 'c'].contains kind
      else
        match locate followsLast operand with
        | none => false
        | some (location, entry) =>
          let bits :=
            match kind with
            | 'u' => 2048
            | 'g' => 1024
            | 'k' => 512
            | _ => 0
          if bits != 0 then (records.of location entry).rights &&& bits != 0
          else
            match entry with
            | .file octets isExecutable =>
              if (records.of location entry).isPipe then
                ['e', 'p', 'r', 'w', 'O', 'G'].contains kind || kind = 'x' && isExecutable
              else match kind with
              | 's' => !octets.isEmpty
              | 'x' => isExecutable
              | kind => ['e', 'f', 'r', 'w', 'O', 'G'].contains kind
            | .directory => ['e', 'd', 'r', 'w', 'x', 's', 'O', 'G'].contains kind
            | .link _ => !followsLast
    isSame := fun first second ↦
      match locate true first, locate true second with
      | some (one, entry), some (two, other) =>
        let group := (records.of one entry).group
        one == two || (group != 0 && group == (records.of two other).group)
      | _, _ => false
    isNewer := fun first second ↦
      match record first, record second with
      | some first, some second => first.changed > second.changed
      | _, _ => false }

/-- What a condition holds, or what is wrong with it. -/
abbrev Outcome := Except Octets

/-- The comparisons, and the questions about two files. -/
def comparisons : List String :=
  ["=", "!=", "<", ">", "-eq", "-ne", "-gt", "-ge", "-lt", "-le", "-nt", "-ot", "-ef"]

/-- The letters of the questions about one word. -/
def questions : List Char :=
  ['r', 'w', 'x', 'e', 'f', 'd', 'c', 'b', 'p', 'u', 'g', 'k', 's', 't', 'z', 'n', 'h', 'O', 'G',
    'L', 'S']

/-- The word is a comparison. -/
def isComparison (word : Octets) : Bool :=
  comparisons.any (·.toList == word)

/-- The question that a word asks about the next one: its letter. It asks none before a comparison,
or with nothing after it. -/
def question? (word : Octets) (rest : List Octets) : Option Char :=
  match word, rest with
  | ['-', letter], _ :: after =>
    let isText := !after.isEmpty && rest.head?.any isComparison
    if questions.contains letter && !isText then some letter else none
  | _, _ => none

/-- The number that a word is. -/
def number (word : Octets) : Outcome Int :=
  match (Number.decimal? word).filter Number.isSmall with
  | some value => .ok value
  | none => .error (Octets.ofText "Illegal number: " ++ word)

/-- Whether a comparison holds. -/
def compare (files : Files) (first operator second : Octets) : Outcome Bool :=
  let numbers := fun (holds : Int → Int → Bool) ↦ do
    return holds (← number first) (← number second)
  match String.ofList operator with
  | "=" => .ok (first == second)
  | "!=" => .ok (first != second)
  | "<" => .ok (String.ofList first < String.ofList second)
  | ">" => .ok (String.ofList second < String.ofList first)
  | "-eq" => numbers fun left right ↦ left == right
  | "-ne" => numbers fun left right ↦ left != right
  | "-lt" => numbers fun left right ↦ left < right
  | "-le" => numbers fun left right ↦ left ≤ right
  | "-gt" => numbers fun left right ↦ left > right
  | "-ge" => numbers fun left right ↦ left ≥ right
  | "-nt" => .ok (files.isNewer first second)
  | "-ot" => .ok (files.isNewer second first)
  | _ => .ok (files.isSame first second)

/-- Whether the answer to a question is yes. -/
def ask (files : Files) (letter : Char) (operand : Octets) : Outcome Bool :=
  match letter with
  | 'z' => .ok operand.isEmpty
  | 'n' => .ok !operand.isEmpty
  | 't' => do
    let _ ← number operand
    return false
  | letter => .ok (files.has letter operand)

mutual

/-- Alternatives: what they hold, and the words that are left. -/
def alternatives (files : Files) : Nat → List Octets → Outcome (Bool × List Octets)
  | 0, _ => .error []
  | left + 1, words => do
    let (first, rest) ← conjunction files left words
    match rest with
    | ['-', 'o'] :: rest =>
      let (second, rest) ← alternatives files left rest
      return (first || second, rest)
    | rest => return (first, rest)

/-- Conditions that must hold together. -/
def conjunction (files : Files) : Nat → List Octets → Outcome (Bool × List Octets)
  | 0, _ => .error []
  | left + 1, words => do
    let (first, rest) ← negation files left words
    match rest with
    | ['-', 'a'] :: rest =>
      let (second, rest) ← conjunction files left rest
      return (first && second, rest)
    | rest => return (first, rest)

/-- A condition that may be negated. -/
def negation (files : Files) : Nat → List Octets → Outcome (Bool × List Octets)
  | 0, _ => .error []
  | left + 1, words =>
    match words with
    | ['!'] :: rest => do
      let (value, rest) ← negation files left rest
      return (!value, rest)
    | words => primary files left words

/-- A condition in parentheses, a question, a comparison or a text. -/
def primary (files : Files) : Nat → List Octets → Outcome (Bool × List Octets)
  | 0, _ => .error []
  | _ + 1, [] => .ok (false, [])
  | left + 1, word :: rest =>
    if word = ['('] ∧ !rest.isEmpty then
      if rest.head? = some [')'] then .ok (false, rest.drop 1)
      else do
        let (value, rest) ← alternatives files left rest
        match rest with
        | [')'] :: rest => return (value, rest)
        | _ => .error (Octets.ofText "closing paren expected")
    else
      match question? word rest, rest with
      | some letter, operand :: rest => do
        return (← ask files letter operand, rest)
      | _, operator :: rest =>
        if isComparison operator then
          match rest with
          | second :: rest => do
            return (← compare files word operator second, rest)
          | [] => .error (operator ++ Octets.ofText ": argument expected")
        else .ok (!word.isEmpty, operator :: rest)
      | _, [] => .ok (!word.isEmpty, [])

end

/-- The words as a condition from left to right. -/
def fromLeft (files : Files) (words : List Octets) : Outcome Bool := do
  let (value, rest) ← alternatives files (8 * words.length + 8) words
  if rest.isEmpty then return value
  else
    let last := (words.drop (words.length - rest.length - 1)).headD []
    .error (last ++ Octets.ofText ": unexpected operator")

/-- Whether a condition holds; `left` bounds its length. -/
def decide (files : Files) : (left : Nat) → List Octets → Outcome Bool
  | 0, _ => .error []
  | _ + 1, [] => .ok false
  | left + 1, words =>
    match words with
    | [first, operator, second] =>
      if isComparison operator then compare files first operator second
      else ofSome left words
    | words => if words.length = 4 then ofSome left words else fromLeft files words
where
  /-- Whether a condition of three or four words holds. -/
  ofSome (left : Nat) (words : List Octets) : Outcome Bool :=
    if words.head? = some ['('] ∧ words.getLast? = some [')'] then
      fromLeft files (words.drop 1).dropLast
    else if words.head? = some ['!'] then (decide files left (words.drop 1)).map not
    else fromLeft files words

/-- Whether the condition that words are holds. -/
def holds (files : Files) (words : List Octets) : Outcome Bool :=
  decide files (words.length + 1) words

end Scaffold.Shell.Condition
