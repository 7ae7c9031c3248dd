import Scaffold.Shell.Awk.Expression
import Scaffold.Shell.Awk.Syntax
import Scaffold.Shell.Awk.Token

/-!
# Reading programs for records

Tokens become terms, statements and rules (`Program.read`). A term is read level by level: what
binds loosely is made of what binds more tightly. What is written side by side is joined. A name is
an array or a value everywhere; which of them a parameter is shows in the calls and in the body of
its function (`settled`).
-/

set_option autoImplicit false

namespace Scaffold.Shell.Awk

open Text (Octets)

/-- What is known of a name in a function, or outside of functions where that has no name: it is an
array, or it is none. -/
abbrev Kinds := List ((String × String) × Bool)

/-- A call: the function it stands in, the one that is called, the names that are passed as they
are, and the line. -/
structure CallSite where
  caller : String
  callee : String
  passed : List (Option String)
  line : Nat

/-- Where the reading of a program stands. -/
structure Reading where
  tokens : List Token
  /-- The function that is read, with its parameters. -/
  routine : String
  parameters : List String
  loops : Nat
  kinds : Kinds
  calls : List CallSite
  /-- The rule at hand is one for records. -/
  isForRecords : Bool

/-- A part of the reading of a program; otherwise there is a message. -/
abbrev Parser := StateT Reading (Except Octets)

namespace Parser

/-- The message about a line. -/
def about (line : Nat) (text : Octets) : Octets :=
  "line ".toList ++ Number.digits 10 line ++ ": ".toList ++ text

/-- The next token. -/
def peek : Parser Token := do
  return (← get).tokens.headD ⟨.finish, 1, 0, 0⟩

/-- Passes the next token, unless it is the last one. -/
def advance : Parser Unit :=
  modify fun reading ↦
    match reading.tokens with
    | _ :: next :: rest => { reading with tokens := next :: rest }
    | _ => reading

/-- The message about a token that cannot stand where it stands. -/
def misplaced (token : Token) : Octets :=
  let isEnd := match token.kind with
    | .newline | .implied | .finish => true
    | .sign mark => mark == ";" || mark == "\x7d"
    | _ => false
  match token.kind with
  | .broken message => message
  | .extra c => about token.line ("extra '".toList ++ [c, '\x27'])
  | .finish =>
    if token.braces > 0 then about token.line "missing \x7d near end of file".toList
    else if token.parentheses > 0 then about token.line "missing ) near end of file".toList
    else about token.line "syntax error at or near end of file".toList
  | kind =>
    if isEnd && token.parentheses > 0 then about token.line ("missing ) near ".toList ++ kind.shown)
    else about token.line ("syntax error at or near ".toList ++ kind.shown)

/-- Stops at the next token; a brace too many is passed, and the token after it told about as
well. -/
def fail {α : Type} : Parser α := do
  match (← get).tokens with
  | token :: next :: _ =>
    match token.kind with
    | .extra '\x7d' => throw (misplaced token ++ "\nawk: ".toList ++ misplaced next)
    | _ => throw (misplaced token)
  | tokens => throw (misplaced (tokens.headD ⟨.finish, 1, 0, 0⟩))

/-- Stops with a message about a line. -/
def wrong {α : Type} (line : Nat) (text : String) : Parser α :=
  throw (about line text.toList)

/-- Passes a sign if it is the next token. -/
def takes (mark : String) : Parser Bool := do
  if (← peek).kind.isSign mark then
    advance
    return true
  else return false

/-- Passes a sign that has to be there. -/
def expect (mark : String) : Parser Unit := do
  if !(← takes mark) then fail

/-- Passes a word with a meaning of its own if it is the next token. -/
def takesKeyword (word : String) : Parser Bool := do
  match (← peek).kind with
  | .keyword other =>
    if other = word then
      advance
      return true
    else return false
  | _ => return false

/-- Passes ends of lines; `left` bounds their number. -/
def dropLines : (left : Nat) → Parser Unit
  | 0 => return
  | left + 1 => do
    match (← peek).kind with
    | .newline =>
      advance
      dropLines left
    | _ => return

/-- Passes the end of a statement. -/
def separator : Parser Unit := do
  match (← peek).kind with
  | .newline | .implied => advance
  | .sign ";" => advance
  | _ => fail

/-! ### Names -/

/-- Names that stand for values from the start, and for arrays. -/
def plainNames : List String :=
  ["NR", "FNR", "NF", "FS", "OFS", "RS", "ORS", "SUBSEP", "CONVFMT", "OFMT", "RSTART", "RLENGTH",
    "FILENAME", "ARGC"]

/-- What is known of a name. -/
def kind? (kinds : Kinds) (key : String × String) : Option Bool :=
  if key.1.isEmpty && plainNames.contains key.2 then some false
  else if key.1.isEmpty && ["ENVIRON", "ARGV"].contains key.2 then some true
  else kinds.lookup key

/-- The name in the function at hand, or outside of all. -/
def keyOf (name : String) : Parser (String × String) := do
  let reading ← get
  return (if reading.parameters.contains name then reading.routine else "", name)

/-- What a name stands for. -/
def holder (name : String) : Parser Holder := do
  match (← get).parameters.findIdx? (· == name) with
  | some index => return .parameter index
  | none => return .global name

/-- Notes that a name is an array, or that it is none. -/
def note (line : Nat) (isArray : Bool) (name : String) : Parser Holder := do
  let key ← keyOf name
  match kind? (← get).kinds key with
  | some known =>
    if known != isArray then
      wrong line ("illegal reference to " ++ (if key.1.isEmpty then "" else "local ") ++
        (if known then "array " else "variable ") ++ name)
  | none => modify fun reading ↦ { reading with kinds := (key, isArray) :: reading.kinds }
  holder name

/-- The name that is the next token. -/
def name : Parser (String × Nat) := do
  let token ← peek
  match token.kind with
  | .name name =>
    advance
    return (name, token.line)
  | _ => fail

/-- The array whose name is the next token. -/
def array : Parser Holder := do
  let (name, line) ← name
  note line true name

/-- The next token is a name that stands alone between commas or before the end of a list. -/
def loneName? : Parser (Option String) := do
  match (← get).tokens with
  | ⟨.name name, _, _, _⟩ :: next :: _ =>
    return if next.kind.isSign "," || next.kind.isSign ")" then some name else none
  | _ => return none

/-- What an expression asks to search for. -/
def sought (line : Nat) (octets : Octets) : Parser Sought :=
  match Pattern.sought octets with
  | .ok sought => return sought
  | .error reason =>
    throw (about line ("regular expression compile failed (".toList ++ reason.toList ++
      ")\n".toList ++ octets))

/-- A text that stands for what is searched for, as such. -/
def asPattern (line : Nat) (found : Term) : Parser Term := do
  match found with
  | .text octets => return .pattern (← sought line octets)
  | found => return found

/-! ### Terms -/

/-- How many arguments a function takes. -/
def arity : String → Nat × Nat
  | "atan2" | "index" | "match" => (2, 2)
  | "rand" | "systime" => (0, 0)
  | "fflush" | "length" | "srand" => (0, 1)
  | "gsub" | "sub" | "split" | "substr" => (2, 3)
  | "sprintf" => (1, 255)
  | "strftime" => (0, 3)
  | _ => (1, 1)

/-- Functions whose arguments belong to the form of the program. -/
def strictBuiltins : List String :=
  ["gsub", "match", "split", "sub"]

/-- The sign compares. -/
def relation? : String → Option Relation
  | "<" => some .less
  | "<=" => some .atMost
  | "==" => some .equal
  | "!=" => some .differs
  | ">=" => some .atLeast
  | ">" => some .more
  | _ => none

/-- The operator of a sign that assigns; none if it assigns the value as it is. -/
def assigning? : String → Option (Option Operator)
  | "=" => some none
  | "+=" => some (some .add)
  | "-=" => some (some .subtract)
  | "*=" => some (some .multiply)
  | "/=" => some (some .divide)
  | "%=" => some (some .remainder)
  | "^=" => some (some .power)
  | _ => none

/-- The term is a text of one octet at most, which is not searched for as an expression. -/
def isSingle : Term → Bool
  | .text octets => octets.length ≤ 1
  | _ => false

/-- The token may begin a term that is joined with the one before. -/
def beginsTerm : TokenKind → Bool
  | .number _ _ | .text _ | .pattern _ | .name _ | .routine _ | .builtin _ => true
  | .keyword word => word == "getline"
  | .sign mark => ["$", "(", "!", "++", "--", "-", "+"].contains mark
  | _ => false

mutual

/-- Reads a term whose parts bind at least as tightly as a level says: a choice is on the first one,
and comparisons on the sixth. -/
def term : (left : Nat) → (level : Nat) → Parser Term
  | 0, _ => fail
  | left + 1, level => do
    let first ← operand left
    operators left level first

/-- Reads what follows a term that signs combine with others. -/
def operators : (left : Nat) → (level : Nat) → Term → Parser Term
  | 0, _, _ => fail
  | left + 1, level, first => do
    let token ← peek
    match token.kind with
    | .keyword "in" =>
      if level > 4 then return first
      advance
      let array ← array
      operators left level (.member [first] array)
    | .sign mark =>
      match relation? mark with
      | some relation =>
        if level > 6 then return first
        advance
        let second ← term left 7
        operators left level (.compare relation first second)
      | none =>
        if mark = "?" then
          if level > 1 then return first
          advance
          let yes ← term left 1
          expect ":"
          let no ← term left 1
          return .choose first yes no
        else if mark = "||" then
          if level > 2 then return first
          advance
          operators left level (.either first (← term left 3))
        else if mark = "&&" then
          if level > 3 then return first
          advance
          operators left level (.both first (← term left 4))
        else if mark = "~" ∨ mark = "!~" then
          if level > 5 then return first
          advance
          let pattern ← asPattern token.line (← term left 6)
          operators left level (.fits (mark == "!~") first pattern)
        else return first
    | _ => return first

/-- Reads terms that are joined, or a target to which a term is assigned. -/
def operand : (left : Nat) → Parser Term
  | 0 => fail
  | left + 1 => do
    let first ← sum left
    match (← peek).kind with
    | .sign mark =>
      match assigning? mark with
      | some operator =>
        if !first.isTarget then fail
        advance
        return .assign first operator (← term left 1)
      | none => joined left first
    | _ => joined left first

/-- Reads terms that are joined with one. -/
def joined : (left : Nat) → Term → Parser Term
  | 0, _ => fail
  | left + 1, first => do
    if beginsTerm (← peek).kind then
      let second ← sum left
      joined left (.join first second)
    else return first

/-- Reads a sum. -/
def sum : (left : Nat) → Parser Term
  | 0 => fail
  | left + 1 => do
    let first ← product left
    summands left first

/-- Reads what is added to a term. -/
def summands : (left : Nat) → Term → Parser Term
  | 0, _ => fail
  | left + 1, first => do
    if ← takes "+" then summands left (.binary .add first (← product left))
    else if ← takes "-" then summands left (.binary .subtract first (← product left))
    else return first

/-- Reads a product. -/
def product : (left : Nat) → Parser Term
  | 0 => fail
  | left + 1 => do
    let first ← signed left
    factors left first

/-- Reads what a term is multiplied with. -/
def factors : (left : Nat) → Term → Parser Term
  | 0, _ => fail
  | left + 1, first => do
    if ← takes "*" then factors left (.binary .multiply first (← signed left))
    else if ← takes "/" then factors left (.binary .divide first (← signed left))
    else if ← takes "%" then factors left (.binary .remainder first (← signed left))
    else return first

/-- Reads a term with signs in front. -/
def signed : (left : Nat) → Parser Term
  | 0 => fail
  | left + 1 => do
    if ← takes "!" then return .not (← signed left)
    else if ← takes "-" then return .negative (← signed left)
    else if ← takes "+" then return .positive (← signed left)
    else
      let first ← power left
      fetched left first

/-- Reads what is read from the command that a term is. -/
def fetched : (left : Nat) → Term → Parser Term
  | 0, _ => fail
  | left + 1, command => do
    match (← get).tokens with
    | ⟨.sign "|", _, _, _⟩ :: ⟨.keyword "getline", _, _, _⟩ :: _ =>
      advance
      advance
      let target ← target? left
      fetched left (.fetch .command (some command) target)
    | _ => return command

/-- Reads the target of a line, if there is one. -/
def target? : (left : Nat) → Parser (Option Term)
  | 0 => fail
  | left + 1 => do
    match (← peek).kind with
    | .name _ => return some (← primary left)
    | .sign "$" => return some (← primary left)
    | _ => return none

/-- Reads a power. -/
def power : (left : Nat) → Parser Term
  | 0 => fail
  | left + 1 => do
    let base ← stepped left
    if ← takes "^" then
      match (← peek).kind with
      | .sign mark =>
        if ["-", "+", "!"].contains mark then return .binary .power base (← signed left)
        else return .binary .power base (← power left)
      | _ => return .binary .power base (← power left)
    else return base

/-- Reads a term that may be a target with a step after it. -/
def stepped : (left : Nat) → Parser Term
  | 0 => fail
  | left + 1 => do
    let body ← primary left
    if body.isTarget then
      if ← takes "++" then return .step body true false
      else if ← takes "--" then return .step body false false
      else return body
    else return body

/-- Reads the number of a field. -/
def fieldIndex : (left : Nat) → Parser Term
  | 0 => fail
  | left + 1 => do
    if ← takes "-" then return .negative (← fieldIndex left)
    else if ← takes "+" then return .positive (← fieldIndex left)
    else if ← takes "!" then return .not (← fieldIndex left)
    else primary left

/-- Reads a term that no sign combines with another one. -/
def primary : (left : Nat) → Parser Term
  | 0 => fail
  | left + 1 => do
    let token ← peek
    match token.kind with
    | .number value _ =>
      advance
      return .number value
    | .text octets =>
      advance
      return .text octets
    | .pattern octets =>
      advance
      return .pattern (← sought token.line octets)
    | .name name =>
      advance
      if ← takes "[" then
        let subscripts ← list left "]"
        return .element (← note token.line true name) subscripts
      else return .named (← note token.line false name)
    | .routine name =>
      advance
      expect "("
      let reading ← get
      let (arguments, passed) ← arguments left
      modify fun after ↦
        { after with calls := ⟨reading.routine, name, passed, token.line⟩ :: after.calls }
      return .call name arguments
    | .builtin name =>
      advance
      builtin left token.line name
    | .keyword "getline" =>
      advance
      let target ← target? left
      if ← takes "<" then
        let place ← match (← peek).kind with
          | .sign mark =>
            if ["-", "+", "!"].contains mark then signed left else power left
          | _ => power left
        return .fetch .file (some place) target
      else return .fetch .records none target
    | .sign "$" =>
      advance
      return .field (← fieldIndex left)
    | .sign "(" =>
      advance
      let body ← term left 1
      if ← takes "," then
        let others ← list left ")"
        if !(← takesKeyword "in") then fail
        return .member (body :: others) (← array)
      else
        expect ")"
        return .grouped body
    | .sign mark =>
      if mark = "++" ∨ mark = "--" then
        advance
        let target ← primary left
        if !target.isTarget then fail
        return .step target (mark == "++") true
      else fail
    | _ => fail

/-- Reads the terms of a list up to its end. -/
def list : (left : Nat) → (mark : String) → Parser (List Term)
  | 0, _ => fail
  | left + 1, mark => do
    let first ← term left 1
    if ← takes "," then return first :: (← list left mark)
    else
      expect mark
      return [first]

/-- Reads the arguments of a call up to the end, with the names that are passed as they are. -/
def arguments : (left : Nat) → Parser (List Term × List (Option String))
  | 0 => fail
  | left + 1 => do
    if ← takes ")" then return ([], [])
    else
      let first ←
        match ← loneName? with
        | some name =>
          advance
          pure (Term.named (← holder name), some name)
        | none => do pure (← term left 1, none)
      if ← takes "," then
        let (others, passed) ← arguments left
        if others.isEmpty then fail
        return (first.1 :: others, first.2 :: passed)
      else
        expect ")"
        return ([first.1], [first.2])

/-- Reads the arguments of a function that is there from the start. -/
def builtin : (left : Nat) → (line : Nat) → (name : String) → Parser Term
  | 0, _, _ => fail
  | left + 1, line, name => do
    if name = "length" && !(← peek).kind.isSign "(" then return .builtin name []
    expect "("
    let (least, most) := arity name
    let arguments ← if ← takes ")" then pure [] else builtinArguments left line name 0
    if arguments.length < least ∨ most < arguments.length then
      wrong line ("wrong number of arguments in call to " ++ name)
    return .builtin name arguments

/-- Reads the arguments of such a function, after so many of them. -/
def builtinArguments : (left line : Nat) → (name : String) → (count : Nat) → Parser (List Term)
  | 0, _, _, _ => fail
  | left + 1, line, name, count => do
    let first ←
      if name = "split" ∧ count = 1 then do pure (Term.named (← array))
      else if name = "length" then
        match ← loneName? with
        | some name => do
          advance
          pure (Term.named (← holder name))
        | none => term left 1
      else term left 1
    let isStrict := strictBuiltins.contains name
    let isPattern := ((name == "sub" || name == "gsub") && count == 0) ||
      (name == "match" && count == 1) || (name == "split" && count == 2 && !isSingle first)
    let first ← if isPattern then do asPattern line first else pure first
    let (least, most) := arity name
    if isStrict ∧ count = 2 ∧ name != "split" ∧ !first.isTarget then fail
    if (← peek).kind.isSign "," then
      if isStrict ∧ count + 1 = most then fail
      advance
      return first :: (← builtinArguments left line name (count + 1))
    else
      if isStrict ∧ count + 1 < least then fail
      expect ")"
      return [first]

end

/-! ### Statements -/

/-- The tokens up to the parenthesis that closes one, and what follows it; whether there is a comma
between them. -/
def closing? : (depth : Nat) → (hasComma : Bool) → List Token → Option (Bool × Token)
  | _, _, [] => none
  | depth, hasComma, token :: rest =>
    if token.kind.isSign "(" ∨ token.kind.isSign "[" then closing? (depth + 1) hasComma rest
    else if token.kind.isSign ")" ∨ token.kind.isSign "]" then
      if depth ≤ 1 then rest.head?.map fun next ↦ (hasComma, next)
      else closing? (depth - 1) hasComma rest
    else closing? depth (hasComma || (depth == 1 && token.kind.isSign ",")) rest

/-- The next token is a parenthesis around several arguments. -/
def isArgumentList : Parser Bool := do
  let tokens := (← get).tokens
  if !(← peek).kind.isSign "(" then return false
  match closing? 0 false tokens with
  | some (hasComma, next) =>
    match next.kind with
    | .keyword "in" => return false
    | _ => return hasComma
  | none => return false

/-- The token ends what is printed. -/
def endsPrinted : TokenKind → Bool
  | .newline | .implied | .output _ => true
  | .sign mark => mark == ";"
  | _ => false

/-- Reads terms between commas. -/
def terms : (left : Nat) → Parser (List Term)
  | 0 => fail
  | left + 1 => do
    let first ← term left 1
    if ← takes "," then return first :: (← terms left)
    else return [first]

/-- Reads what is printed, and where to. -/
def printed (left : Nat) : Parser (List Term × Option (OutputKind × Term)) := do
  let arguments ←
    if endsPrinted (← peek).kind then pure []
    else if ← isArgumentList then
      advance
      list left ")"
    else
      match (← get).tokens with
      | ⟨.sign "(", _, _, _⟩ :: ⟨.sign ")", _, _, _⟩ :: _ =>
        advance
        advance
        pure []
      | _ => terms left
  match (← peek).kind with
  | .output mark =>
    advance
    let kind := if mark = ">" then .replaced else if mark = ">>" then .appended else .command
    return (arguments, some (kind, ← term left 1))
  | _ => return (arguments, none)

/-- Reads a condition in parentheses and the ends of lines after it. -/
def condition (left : Nat) : Parser Term := do
  expect "("
  let condition ← term left 1
  expect ")"
  dropLines left
  return condition

/-- Reads with one loop more around. -/
def inLoop {α : Type} (body : Parser α) : Parser α := do
  modify fun reading ↦ { reading with loops := reading.loops + 1 }
  let found ← body
  modify fun reading ↦ { reading with loops := reading.loops - 1 }
  return found

/-- Reads a term up to the end of a statement, if there is one. -/
def lastTerm? (left : Nat) : Parser (Option Term) := do
  if endsPrinted (← peek).kind then
    separator
    return none
  else
    let value ← term left 1
    separator
    return some value

mutual

/-- Reads a statement. -/
def statement : (left : Nat) → Parser Statement
  | 0 => fail
  | left + 1 => do
    let token ← peek
    match token.kind with
    | .sign mark =>
      if mark = "\x7b" then return .block (← block left)
      else if mark = ";" then
        separator
        return .nothing
      else simple left
    | .newline | .implied =>
      separator
      return .nothing
    | .keyword word => worded left token.line word
    | _ => simple left

/-- Reads a term as a statement. -/
def simple (left : Nat) : Parser Statement := do
  let value ← term left 1
  separator
  return .value value

/-- Reads a statement that begins with a word. -/
def worded : (left : Nat) → (line : Nat) → (word : String) → Parser Statement
  | 0, _, _ => fail
  | left + 1, line, word => do
    if word = "print" ∨ word = "printf" then
      advance
      let (arguments, output) ← printed left
      if word = "printf" ∧ arguments.isEmpty then
        wrong line "no arguments in call to printf"
      separator
      return if word = "print" then .print arguments output else .printf arguments output
    else if word = "if" then
      advance
      let condition ← condition left
      let yes ← statement left
      if ← takesKeyword "else" then
        return .branch condition yes (← statement left)
      else return .branch condition yes .nothing
    else if word = "while" then
      advance
      let condition ← condition left
      return .loop (some condition) none (← inLoop (statement left))
    else if word = "do" then
      advance
      let body ← inLoop (statement left)
      if !(← takesKeyword "while") then fail
      expect "("
      let condition ← term left 1
      expect ")"
      separator
      return .repeated body condition
    else if word = "for" then
      advance
      counted left
    else if word = "break" ∨ word = "continue" then
      advance
      separator
      if (← get).loops = 0 then
        wrong line (word ++ " statement outside of loop")
      return if word = "break" then .leave else .goOn
    else if word = "next" ∨ word = "nextfile" then
      advance
      separator
      if !(← get).isForRecords then wrong line ("improper use of " ++ word)
      return if word = "next" then .nextRecord else .nextFile
    else if word = "exit" then
      advance
      return .finish (← lastTerm? left)
    else if word = "return" then
      advance
      let value ← lastTerm? left
      if (← get).routine.isEmpty then wrong line "return outside function body"
      return .giveBack value
    else if word = "delete" then
      advance
      let array ← array
      if ← takes "[" then
        let subscripts ← list left "]"
        separator
        return .delete array subscripts
      else
        separator
        return .clear array
    else simple left

/-- Reads a loop after its word. -/
def counted : (left : Nat) → Parser Statement
  | 0 => fail
  | left + 1 => do
    expect "("
    match (← get).tokens with
    | ⟨.name target, line, _, _⟩ :: ⟨.keyword "in", _, _, _⟩ ::
        ⟨.name _, _, _, _⟩ :: ⟨.sign ")", _, _, _⟩ :: _ =>
      advance
      advance
      let array ← array
      let target ← note line false target
      advance
      dropLines left
      return .each (.named target) array (← inLoop (statement left))
    | _ =>
      let start? ← if ← takes ";" then pure none else do
        let start ← term left 1
        expect ";"
        pure (some start)
      let condition? ← if ← takes ";" then pure none else do
        let condition ← term left 1
        expect ";"
        pure (some condition)
      let step? ← if ← takes ")" then pure none else do
        let step ← term left 1
        expect ")"
        pure (some step)
      dropLines left
      let body ← inLoop (statement left)
      let loop := Statement.loop condition? step? body
      return match start? with
        | some start => .block [.value start, loop]
        | none => loop

/-- Reads statements in braces. -/
def block : (left : Nat) → Parser (List Statement)
  | 0 => fail
  | left + 1 => do
    expect "\x7b"
    statements left

/-- Reads statements up to the closing brace. -/
def statements : (left : Nat) → Parser (List Statement)
  | 0 => fail
  | left + 1 => do
    if ← takes "\x7d" then return []
    else
      let first ← statement left
      return first :: (← statements left)

end

/-! ### Programs -/

/-- Reads the parameters of a function. -/
def parameters : (left : Nat) → (known : List String) → Parser (List String)
  | 0, _ => fail
  | left + 1, known => do
    match (← peek).kind with
    | .name _ =>
      let (name, line) ← name
      if known.contains name then wrong line (name ++ " is duplicated in argument list")
      let known := known ++ [name]
      if ← takes "," then parameters left known
      else
        expect ")"
        return known
    | _ =>
      if known.isEmpty then
        expect ")"
        return known
      else fail

/-- Reads a function after its word. -/
def routine (left : Nat) (known : List String) :
    Parser (String × List String × List Statement) := do
  let token ← peek
  match token.kind with
  | .routine name =>
    advance
    expect "("
    if known.contains name then wrong token.line ("redefinition of " ++ name)
    let parameters ← parameters left []
    dropLines left
    modify fun reading ↦
      { reading with routine := name, parameters, isForRecords := true, loops := 0 }
    let body ← block left
    modify fun reading ↦ { reading with routine := "", parameters := [] }
    return (name, parameters, body)
  | _ => fail

/-- Reads a rule. -/
def rule (left : Nat) : Parser Rule := do
  let token ← peek
  let setPlace := fun (isForRecords : Bool) ↦
    modify (m := Parser) fun reading ↦ { reading with isForRecords, loops := 0 }
  match token.kind with
  | .keyword "BEGIN" =>
    advance
    setPlace false
    return ⟨.start, some (← block left)⟩
  | .keyword "END" =>
    advance
    setPlace false
    return ⟨.finish, some (← block left)⟩
  | .sign "\x7b" =>
    setPlace true
    return ⟨.always, some (← block left)⟩
  | _ =>
    setPlace true
    let first ← term left 1
    let condition ←
      if ← takes "," then do pure (Condition.range first (← term left 1))
      else pure (Condition.holds first)
    if (← peek).kind.isSign "\x7b" then return ⟨condition, some (← block left)⟩
    else
      match (← peek).kind with
      | .finish => return ⟨condition, none⟩
      | _ =>
        separator
        return ⟨condition, none⟩

/-- Reads rules and functions up to the end. -/
def items : (left : Nat) → List Rule → List (String × List String × List Statement) →
    Parser (List Rule × List (String × List String × List Statement))
  | 0, _, _ => fail
  | left + 1, rules, routines => do
    match (← peek).kind with
    | .finish => return (rules.reverse, routines.reverse)
    | .keyword "function" =>
      advance
      let next ← routine left (routines.map (·.1))
      items left rules (next :: routines)
    | _ =>
      let next ← rule left
      items left (next :: rules) routines

/-- What is known of names after one look at all calls: what is passed and the parameter that stands
for it are both arrays, or none of them is. -/
def spread (routines : List (String × List String × List Statement)) (calls : List CallSite)
    (kinds : Kinds) : Kinds :=
  calls.foldl (fun kinds call ↦
    match routines.lookup call.callee with
    | none => kinds
    | some (parameters, _) =>
      let owners := ((routines.lookup call.caller).map (·.1)).getD []
      (parameters.zip call.passed).foldl (fun kinds (parameter, passed) ↦
        let inner := (call.callee, parameter)
        match passed with
        | none => if (kind? kinds inner).isSome then kinds else kinds
        | some name =>
          let outer := (if owners.contains name then call.caller else "", name)
          match kind? kinds inner, kind? kinds outer with
          | some kind, none => (outer, kind) :: kinds
          | none, some kind => (inner, kind) :: kinds
          | _, _ => kinds) kinds) kinds

/-- What is known of names after so many looks at most. -/
def settled (routines : List (String × List String × List Statement)) (calls : List CallSite) :
    (left : Nat) → Kinds → Kinds
  | 0, kinds => kinds
  | left + 1, kinds =>
    let next := spread routines calls kinds
    if next.length = kinds.length then kinds else settled routines calls left next

/-- What is wrong with a call, if anything is. -/
def callFault? (routines : List (String × List String × List Statement)) (kinds : Kinds)
    (last : Nat) (call : CallSite) : Option Octets :=
  match routines.lookup call.callee with
  | none => some (about last ("function " ++ call.callee ++ " never defined").toList)
  | some (parameters, _) =>
    if parameters.length < call.passed.length then
      some (about call.line ("too many arguments in call to " ++ call.callee).toList)
    else
      let owners := ((routines.lookup call.caller).map (·.1)).getD []
      (parameters.zip call.passed).zipIdx.findSome? fun ((parameter, passed), index) ↦
        let actual? : Option Bool :=
          match passed with
          | none => some false
          | some name => kind? kinds (if owners.contains name then call.caller else "", name)
        match kind? kinds (call.callee, parameter), actual? with
        | some expected, some actual =>
          if expected = actual then none
          else
            let text := fun (isArray : Bool) ↦ if isArray then "local array" else "local variable"
            some (about call.line ("type error in arg(".toList ++ Number.digits 10 (index + 1) ++
              (") in call to " ++ call.callee ++ " (actual " ++ text actual ++ " vs " ++
                text expected ++ ")").toList))
        | _, _ => none

end Parser

/-- Reads a program; otherwise there is a message. -/
def Program.read (text : Octets) : Except Octets Program := do
  let tokens := Scanner.tokens text
  let left := 24 * tokens.length + 100
  let start : Reading := ⟨tokens, "", [], 0, [], [], false⟩
  let ((rules, routines), reading) ← (Parser.items left [] []).run start
  let calls := reading.calls.reverse
  let kinds := Parser.settled routines calls (calls.length * 8 + 1) reading.kinds
  let last := (tokens.getLast?.map (·.line)).getD 1
  match calls.filterMap (Parser.callFault? routines kinds last) with
  | message :: messages => throw ((message :: messages).intersperse "\nawk: ".toList).flatten
  | [] =>
    return ⟨rules, routines.map fun (name, parameters, body) ↦
      (name, ⟨parameters.map fun parameter ↦
        (Parser.kind? kinds (name, parameter)).getD false, body⟩)⟩

end Scaffold.Shell.Awk
