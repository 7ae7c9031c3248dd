import Scaffold.Shell.Number

/-!
# Arithmetic

The value of an expression of whole numbers of 64 bits, with the operators of the language C but
those that count up and down. A name stands for the number that its variable holds, and an
assignment gives the variable another one. What is not needed for the value is read but not carried
out: the second operand of a decided `&&` or `||`, and the branch that is not chosen.
-/

set_option autoImplicit false

namespace Scaffold.Shell.Arithmetic

open Text (Octets)

/-- A token of an expression. -/
inductive Token
  | number (value : Int64)
  | name (text : Octets)
  | mark (text : String)
  | bad
  deriving DecidableEq, Repr

/-- The marks, of two that begin alike the longer first. -/
def marks : List String :=
  ["<<=", ">>=", "||", "&&", "==", "!=", "<=", ">=", "<<", ">>", "*=", "/=", "%=", "+=", "-=",
    "&=", "^=", "|=", "=", "<", ">", "+", "-", "*", "/", "%", "&", "|", "^", "!", "~", "(", ")",
    "?", ":"]

/-- The tokens of an expression; `left` bounds its length. -/
def tokens : (left : Nat) → Octets → List Token
  | 0, _ => []
  | _ + 1, [] => []
  | left + 1, c :: rest =>
    let text := c :: rest
    if c = ' ' ∨ c = '\t' ∨ c = '\n' then tokens left rest
    else if c.isDigit then
      let (value, after) := Number.unsigned text
      .number (Int64.ofInt (Number.clamp value)) :: tokens left after
    else if c.isAlpha || c == '_' then
      let name := text.takeWhile fun d ↦ d.isAlphanum || d == '_'
      .name name :: tokens left (text.drop name.length)
    else
      match marks.find? fun mark ↦ mark.toList.isPrefixOf text with
      | some mark => .mark mark :: tokens left (text.drop mark.length)
      | none => [.bad]

/-- The tokens not yet read, and the numbers that variables were given, the last one first. -/
structure Progress where
  tokens : List Token
  given : List (Octets × Int64)

/-- A part of the reading of an expression. -/
abbrev Calculation := StateT Progress (Except String)

/-- Passes over a mark if it is next. -/
def accept (mark : String) : Calculation Bool := do
  match (← get).tokens with
  | .mark text :: rest =>
    if text = mark then
      modify fun progress ↦ { progress with tokens := rest }
      return true
    else return false
  | _ => return false

/-- The operators of each level with their effect, the loosest first. -/
def levels : List (List (String × (Int64 → Int64 → Except String Int64))) :=
  let truth := fun (holds : Bool) ↦ Except.ok (if holds then (1 : Int64) else 0)
  let divide := fun (apply : Int64 → Int64 → Int64) (left right : Int64) ↦
    if right = 0 then Except.error "division by zero" else .ok (apply left right)
  [[("|", fun left right ↦ .ok (left ||| right))],
    [("^", fun left right ↦ .ok (left ^^^ right))],
    [("&", fun left right ↦ .ok (left &&& right))],
    [("==", fun left right ↦ truth (left == right)),
      ("!=", fun left right ↦ truth (left != right))],
    [("<=", fun left right ↦ truth (left ≤ right)), (">=", fun left right ↦ truth (right ≤ left)),
      ("<", fun left right ↦ truth (left < right)), (">", fun left right ↦ truth (right < left))],
    [("<<", fun left right ↦ .ok (left <<< right)),
      (">>", fun left right ↦ .ok (left >>> right))],
    [("+", fun left right ↦ .ok (left + right)), ("-", fun left right ↦ .ok (left - right))],
    [("*", fun left right ↦ .ok (left * right)), ("/", divide (· / ·)), ("%", divide (· % ·))]]

/-- The operators of all levels. -/
def operators : List (String × (Int64 → Int64 → Except String Int64)) :=
  levels.flatten

/-- Applies an operator if its effect counts. -/
def apply (isLive : Bool) (operator : Int64 → Int64 → Except String Int64)
    (left right : Int64) : Calculation Int64 :=
  if isLive then operator left right else return 0

/-- The operator of an assignment: none for a plain one. -/
def assignment? : Token → Option (Option String)
  | .mark "=" => some none
  | .mark mark =>
    if ["<<=", ">>=", "*=", "/=", "%=", "+=", "-=", "&=", "^=", "|="].contains mark then
      some (some (mark.dropEnd 1).toString)
    else none
  | _ => none

/-- The number that a variable holds. -/
def held (valueOf : Octets → Except String Int64) (name : Octets) : Calculation Int64 := do
  match (← get).given.lookup name with
  | some value => return value
  | none => valueOf name

mutual

/-- The value of an operand. -/
def operand (valueOf : Octets → Except String Int64) : Nat → (isLive : Bool) →
    Calculation Int64
  | 0, _ => throw "expecting primary"
  | left + 1, isLive => do
    let progress ← get
    match progress.tokens with
    | .number value :: rest =>
      set { progress with tokens := rest }
      return value
    | .name name :: rest =>
      set { progress with tokens := rest }
      if isLive then held valueOf name else return 0
    | .mark "(" :: rest =>
      set { progress with tokens := rest }
      let value ← whole valueOf left isLive
      if ← accept ")" then return value else throw "expecting ')'"
    | .mark "-" :: rest =>
      set { progress with tokens := rest }
      return -(← operand valueOf left isLive)
    | .mark "+" :: rest =>
      set { progress with tokens := rest }
      operand valueOf left isLive
    | .mark "!" :: rest =>
      set { progress with tokens := rest }
      return if (← operand valueOf left isLive) = 0 then 1 else 0
    | .mark "~" :: rest =>
      set { progress with tokens := rest }
      return ~~~(← operand valueOf left isLive)
    | _ => throw "expecting primary"

/-- The value of operands joined by operators of these levels. -/
def level (valueOf : Octets → Except String Int64) : Nat →
    List (List (String × (Int64 → Int64 → Except String Int64))) → (isLive : Bool) →
    Calculation Int64
  | 0, _, _ => throw "expecting primary"
  | left + 1, [], isLive => operand valueOf left isLive
  | left + 1, operators :: tighter, isLive => do
    let first ← level valueOf left tighter isLive
    chain valueOf left operators tighter isLive first

/-- Applies operators of one level from left to right. -/
def chain (valueOf : Octets → Except String Int64) : Nat →
    List (String × (Int64 → Int64 → Except String Int64)) →
    List (List (String × (Int64 → Int64 → Except String Int64))) → (isLive : Bool) →
    Int64 → Calculation Int64
  | 0, _, _, _, _ => throw "expecting primary"
  | left + 1, operators, tighter, isLive, first => do
    let progress ← get
    match progress.tokens with
    | .mark mark :: rest =>
      match operators.lookup mark with
      | none => return first
      | some operator =>
        set { progress with tokens := rest }
        let second ← level valueOf left tighter isLive
        chain valueOf left operators tighter isLive (← apply isLive operator first second)
    | _ => return first

/-- The value of a conjunction. -/
def conjunction (valueOf : Octets → Except String Int64) : Nat → (isLive : Bool) →
    Calculation Int64
  | 0, _ => throw "expecting primary"
  | left + 1, isLive => do
    let first ← level valueOf left levels isLive
    if ← accept "&&" then
      let second ← conjunction valueOf left (isLive && first != 0)
      return if first ≠ 0 ∧ second ≠ 0 then 1 else 0
    else return first

/-- The value of an alternative. -/
def alternative (valueOf : Octets → Except String Int64) : Nat → (isLive : Bool) →
    Calculation Int64
  | 0, _ => throw "expecting primary"
  | left + 1, isLive => do
    let first ← conjunction valueOf left isLive
    if ← accept "||" then
      let second ← alternative valueOf left (isLive && first == 0)
      return if first ≠ 0 ∨ second ≠ 0 then 1 else 0
    else return first

/-- The value of a choice between two branches. -/
def choice (valueOf : Octets → Except String Int64) : Nat → (isLive : Bool) →
    Calculation Int64
  | 0, _ => throw "expecting primary"
  | left + 1, isLive => do
    let condition ← alternative valueOf left isLive
    if ← accept "?" then
      let yes ← whole valueOf left (isLive && condition != 0)
      if !(← accept ":") then throw "expecting ':'"
      let no ← choice valueOf left (isLive && condition == 0)
      return if condition = 0 then no else yes
    else return condition

/-- The value of an expression, which may be an assignment. -/
def whole (valueOf : Octets → Except String Int64) : Nat → (isLive : Bool) →
    Calculation Int64
  | 0, _ => throw "expecting primary"
  | left + 1, isLive => do
    let progress ← get
    match progress.tokens with
    | .name name :: mark :: rest =>
      match assignment? mark with
      | none => choice valueOf left isLive
      | some operator? =>
        set { progress with tokens := rest }
        let value ← whole valueOf left isLive
        if !isLive then return value
        let result ←
          match operator?.bind fun operator ↦ operators.lookup operator with
          | some operator => do apply isLive operator (← held valueOf name) value
          | none => pure value
        modify fun progress ↦ { progress with given := (name, result) :: progress.given }
        return result
    | _ => choice valueOf left isLive

end

/-- The value of an expression and the numbers that it gives to variables, the first one first. -/
def evaluate (valueOf : Octets → Except String Int64) (text : Octets) :
    Except String (Int64 × List (Octets × Int64)) :=
  let tokens := tokens (text.length + 1) text
  let bound := 16 * (tokens.length + 1)
  do
    let (value, progress) ← (whole valueOf bound true).run ⟨tokens, []⟩
    if progress.tokens.isEmpty then return (value, progress.given.reverse)
    else throw "expecting EOF"

end Scaffold.Shell.Arithmetic
