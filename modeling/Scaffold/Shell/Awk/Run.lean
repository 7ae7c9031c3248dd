import Scaffold.Shell.Awk.Reader
import Scaffold.Shell.Awk.Stream
import Scaffold.Shell.Calendar

/-!
# Running programs for records

Terms are evaluated and statements carried out by `Act.eval` and `Act.perform`, where a program may
have its functions call one another to a depth that is limited. `Act.run` does the rules for the
start, then those for each record, and then those for the end, which an `exit` leads to as well.
-/

set_option autoImplicit false

namespace Scaffold.Shell.Awk

open Text (Octets)

/-- What is left when a number is taken off another one as often as it goes. -/
def remainder (first second : Float) : Float :=
  match Decimal.ofFloat first, Decimal.ofFloat second with
  | .ratio isNegative above below, .ratio _ other under =>
    if other = 0 then 0.0 / 0.0
    else
      let left := (above * under) % (other * below)
      let common := Nat.gcd left (below * under)
      let size := Float.ofNat (left / common) / Float.ofNat (below * under / common)
      if isNegative then -size else size
  | .ratio .., .infinite _ => first
  | _, _ => 0.0 / 0.0

/-- The number cut down to a whole one. -/
def wholePart (value : Float) : Float :=
  if value < 0.0 then value.ceil else value.floor

/-- What an operator makes of two numbers. -/
def Operator.apply (operator : Operator) (first second : Float) : Float :=
  match operator with
  | add => first + second
  | subtract => first - second
  | multiply => first * second
  | divide => first / second
  | remainder => Awk.remainder first second
  | power => first.pow second

/-- Where a value can be put. -/
inductive Spot
  | name (holder : Holder)
  | element (place : ArrayPlace) (subscript : Subscript)
  | field (index : Nat)

namespace Spot

/-- The value at a spot. -/
def get : Spot → Act Value
  | name holder => Act.named holder
  | element place subscript => Act.element place subscript
  | field index => Act.field index

/-- Puts a value at a spot. -/
def set (spot : Spot) (value : Value) : Act Unit :=
  match spot with
  | name holder => Act.setNamed holder value
  | element place subscript => Act.setElement place subscript value
  | field index => Act.setField index value

end Spot

namespace Act

/-! ### Texts -/

/-- The place where a text begins in another one, counted from one; zero if it does not. -/
def indexOf (part : Octets) : (index : Nat) → Octets → Nat
  | index, [] => if part.isEmpty then index else 0
  | index, c :: rest => if part.isPrefixOf (c :: rest) then index else indexOf part (index + 1) rest

/-- A part of a text from an octet on. -/
def part (text : Octets) (start : Float) (length? : Option Float) : Octets :=
  let start := wholePart start
  let length := match length? with
    | some length => wholePart length
    | none => 1.0e18
  let (start, length) := if start < 1.0 then
      (1.0, if length?.isSome then length - start else length) else (start, length)
  if length ≤ 0.0 || length.isNaN then []
  else (text.drop (start.toUInt64.toNat - 1)).take length.toUInt64.toNat

/-- What a replacement is for a match. -/
def replacement (found : Octets) : Octets → Octets
  | '\\' :: '\\' :: '&' :: rest => '\\' :: found ++ replacement found rest
  | '\\' :: '&' :: rest => '&' :: replacement found rest
  | '&' :: rest => found ++ replacement found rest
  | c :: rest => c :: replacement found rest
  | [] => []

/-- A text with its matches replaced, in parts with the last one first, and how many there were.
An empty match counts unless the match before ends there. -/
def substituted (sought : Sought) (new : Octets) (isGlobal : Bool) :
    (left : Nat) → (count : Nat) → (stop : Option Nat) → List Octets → Place → List Octets × Nat
  | 0, count, _, done, place => (place.rest :: done, count)
  | left + 1, count, stop, done, place =>
    match sought.matchFrom place with
    | none => (place.rest :: done, count)
    | some found =>
      let isEmpty := found.start.index = found.finish.index
      let done := place.upTo found.start :: done
      let isSkipped := isEmpty && stop == some found.start.index
      let done := if isSkipped then done else replacement found.text new :: done
      let count := if isSkipped then count else count + 1
      if !isGlobal then (found.finish.rest :: done, count)
      else if isEmpty then
        match found.finish.next? with
        | some next =>
          substituted sought new isGlobal left count none (found.finish.rest.take 1 :: done) next
        | none => (done, count)
      else substituted sought new isGlobal left count (some found.finish.index) done found.finish

/-- The text that a format makes of values. -/
def formatted (who : String) (format : Octets) (values : List Value) : Act Octets := do
  let form := (← get).form "CONVFMT"
  let (parts, fault?) := Value.filled (Value.numberText form) (format.length + 1) 0 [] values format
  let shown := (who ++ "(\"").toList ++ format ++ ['\x22', ')']
  match fault? with
  | none => return parts.reverse.flatten
  | some fault =>
    if who = "printf" then
      modify fun machine ↦ { machine with printed := parts ++ machine.printed }
    match fault with
    | .lacking => fail ("not enough arguments passed to ".toList ++ shown)
    | .improper number =>
      fail ("improper conversion(number ".toList ++ Number.digits 10 number ++ ") in ".toList ++
        shown)

/-- The text of a value that is printed. -/
def shown (value : Value) : Act Octets := do
  match value with
  | .text octets | .read octets => return octets
  | value => return value.toText ((← get).form "OFMT")

/-! ### Functions that are there from the start -/

/-- A number by chance, from zero up to one. -/
def chance : Act Value := fun machine ↦
  let next := machine.chance * 6364136223846793005 + 1442695040888963407
  let value := Float.ofNat (next >>> 11).toNat / 9007199254740992.0
  .ok (.number value) { machine with chance := next }

/-- The time that numbers in a text name, in seconds; minus one if there is none. -/
def timeOf (text : Octets) : Int :=
  match (wordsOf text).map Number.decimal? with
  | some year :: some month :: some day :: some hour :: some minute :: some second :: _ =>
    let months := year * 12 + (month - 1)
    Calendar.daysOf (months / 12) ((months % 12).toNat + 1) 1 * 86400 + (day - 1) * 86400 +
      hour * 3600 + minute * 60 + second
  | _ => -1

/-- Calls a function that needs nothing but values. -/
def callPlain (name : String) (arguments : List Value) : Act Value := do
  let first := arguments.headD .unset
  let number := first.toNumber
  let second := (arguments.drop 1).headD .unset
  match name with
  | "length" => return .ofNat (← text first).length
  | "index" => return .ofNat (indexOf (← text second) 1 (← text first))
  | "substr" =>
    return .text (part (← text first) second.toNumber (arguments[2]?.map Value.toNumber))
  | "sprintf" =>
    return .text (← formatted "sprintf" (← text first) (arguments.drop 1))
  | "toupper" => return .text ((← text first).map Char.toUpper)
  | "tolower" => return .text ((← text first).map Char.toLower)
  | "int" => return .number (wholePart number)
  | "sqrt" => return .number number.sqrt
  | "exp" => return .number number.exp
  | "log" => return .number number.log
  | "sin" => return .number number.sin
  | "cos" => return .number number.cos
  | "atan2" => return .number (Float.atan2 number second.toNumber)
  | "rand" => chance
  | "srand" =>
    let machine ← get
    let seed := if arguments.isEmpty then
        Value.number (Float.ofInt (machine.task.now / 1000000)) else first
    set { machine with seed, chance := (Value.truncated seed.toNumber % 4294967296).toNat.toUInt64 }
    return machine.seed
  | "system" => system (← text first)
  | "close" => close (← text first)
  | "fflush" =>
    if arguments.isEmpty || (← text first) = "/dev/stdout".toList then flushPrinted
    else flushFiles
    return .number 0.0
  | "systime" => return .number (Float.ofInt ((← get).task.now / 1000000))
  | "mktime" => return .number (Float.ofInt (timeOf (← text first)))
  | "strftime" =>
    let form ← if arguments.isEmpty then pure "%c".toList else text first
    let task := (← get).task
    let seconds :=
      if arguments.length < 2 then task.now / 1000000 else Value.truncated second.toNumber
    return .text (Calendar.text (Zone.ofSettings task.settings) form (seconds * 1000000))
  | _ => return .unset

/-- Notes what was read: a line, the end, or that nothing can be read. -/
def fetched (line? : Option Octets) (put : Octets → Act Unit) : Act Value := do
  match line? with
  | some line =>
    put line
    return .number 1.0
  | none => return .number 0.0

mutual

/-- The value of a term. -/
def eval : (left : Nat) → Term → Act Value
  | 0, _ => throw .endless
  | left + 1, term => do
    match term with
    | .number value => return .number value
    | .text octets => return .text octets
    | .pattern sought => return .ofBool (sought.isIn (← record))
    | .named holder => named holder
    | .element _ _ => (← spotOf left term).get
    | .field index => field (← fieldIndex (← eval left index))
    | .grouped body => eval left body
    | .assign target none value =>
      let spot ← spotOf left target
      let value ← eval left value
      spot.set value
      return value
    | .assign target (some operator) value =>
      let spot ← spotOf left target
      let value ← eval left value
      let held ← spot.get
      let value := Value.number (operator.apply held.toNumber value.toNumber)
      spot.set value
      return value
    | .step target goesUp isBefore =>
      let spot ← spotOf left target
      let held := (← spot.get).toNumber
      let value := Value.number (if goesUp then held + 1.0 else held - 1.0)
      spot.set value
      return if isBefore then value else .number held
    | .binary operator first second =>
      let first ← eval left first
      let second ← eval left second
      return .number (operator.apply first.toNumber second.toNumber)
    | .compare relation first second =>
      let first ← eval left first
      let second ← eval left second
      return .ofBool (relation.ofValues ((← get).form "CONVFMT") first second)
    | .join first second =>
      let first ← text (← eval left first)
      let second ← text (← eval left second)
      spend (second.length / 16)
      return .text (first ++ second)
    | .fits isNegated body pattern =>
      let body ← text (← eval left body)
      let sought ← patternOf left pattern
      return .ofBool (sought.isIn body != isNegated)
    | .both first second =>
      if (← eval left first).holds then return .ofBool (← eval left second).holds
      else return .ofBool false
    | .either first second =>
      if (← eval left first).holds then return .ofBool true
      else return .ofBool (← eval left second).holds
    | .not body => return .ofBool !(← eval left body).holds
    | .negative body => return .number (-(← eval left body).toNumber)
    | .positive body => return .number (← eval left body).toNumber
    | .choose condition yes no =>
      if (← eval left condition).holds then eval left yes else eval left no
    | .member subscripts array =>
      let subscript ← subscript (← evalAll left subscripts)
      let place ← arrayPlace array
      changeTable place (·.touched false subscript)
      return .ofBool ((← table place).has subscript)
    | .call name arguments => call left name arguments
    | .builtin name arguments => builtin left name arguments
    | .fetch source place target => fetch left source place target

/-- The values of terms. -/
def evalAll : (left : Nat) → List Term → Act (List Value)
  | 0, _ => throw .endless
  | _ + 1, [] => return []
  | left + 1, term :: rest => do
    let value ← eval left term
    return value :: (← evalAll left rest)

/-- The spot that a term names; an element is added if it is missing. -/
def spotOf : (left : Nat) → Term → Act Spot
  | 0, _ => throw .endless
  | left + 1, term => do
    match term with
    | .named holder => return .name holder
    | .element array subscripts =>
      let subscript ← subscript (← evalAll left subscripts)
      let place ← arrayPlace array
      changeTable place (·.touched true subscript)
      return .element place subscript
    | .field index => return .field (← fieldIndex (← eval left index))
    | .grouped body => spotOf left body
    | _ => return .field 0

/-- What a term asks to search for. -/
def patternOf : (left : Nat) → Term → Act Sought
  | 0, _ => throw .endless
  | left + 1, term => do
    match term with
    | .pattern sought => return sought
    | .grouped body => patternOf left body
    | term => sought (← text (← eval left term))

/-- Reads a line. -/
def fetch : (left : Nat) → LineSource → (place target : Option Term) → Act Value
  | 0, _, _, _ => throw .endless
  | left + 1, source, place, target => do
    let put := fun (line : Octets) ↦ do
      match target with
      | some target => (← spotOf left target).set (.read line)
      | none => setRecord line
    match source with
    | .records =>
      fetched (← nextRecord? 100000) fun line ↦ do
        countRecord
        put line
    | .file =>
      let name ← text (← eval left (place.getD (.text [])))
      match ← fileInlet? name with
      | none => return .number (-1.0)
      | some inlet => fetched (← lineOf inlet) put
    | .command =>
      let name ← text (← eval left (place.getD (.text [])))
      fetched (← lineOf (← commandInlet name)) put

/-- Calls a function that is there from the start. -/
def builtin : (left : Nat) → (name : String) → List Term → Act Value
  | 0, _, _ => throw .endless
  | left + 1, name, arguments => do
    match name, arguments with
    | "length", [] => return .ofNat (← record).length
    | "length", [.named holder] =>
      let machine ← get
      let isArray := match holder with
        | .global name => machine.arrays.contains name
        | .parameter index => machine.frame[index]? matches some (.shared _)
      if isArray then return .ofNat (← table (← arrayPlace holder)).count
      else callPlain name [← named holder]
    | "match", [body, pattern] =>
      let body ← text (← eval left body)
      let sought ← patternOf left pattern
      let (start, length) : Float × Float := match sought.matchFrom (.start body) with
        | some found => (Float.ofNat (found.start.index + 1),
            Float.ofNat (found.finish.index - found.start.index))
        | none => (0.0, -1.0)
      setGlobal "RSTART" (.number start)
      setGlobal "RLENGTH" (.number length)
      return .number start
    | "split", body :: .named array :: rest =>
      let body ← text (← eval left body)
      let separator ← match rest with
        | [] => pure (← get).separator
        | .pattern sought :: _ => pure (.pattern sought)
        | term :: _ => do separatorOf (← text (← eval left term))
      let fields := (cut separator false body).map Value.read
      let place ← arrayPlace array
      changeTable place fun _ ↦ if fields.isEmpty then .empty else .ofRow fields
      return .ofNat fields.length
    | _, pattern :: new :: rest =>
      if name = "sub" ∨ name = "gsub" then
        let sought ← patternOf left pattern
        let new ← text (← eval left new)
        let spot ← match rest with
          | target :: _ => spotOf left target
          | [] => pure (.field 0)
        let body ← text (← spot.get)
        let (parts, count) := substituted sought new (name == "gsub") (body.length + 2) 0 none []
          (.start body)
        if count > 0 then spot.set (.text parts.reverse.flatten)
        return .ofNat count
      else callPlain name (← evalAll left arguments)
    | _, arguments => callPlain name (← evalAll left arguments)

/-- Calls a function of the program. -/
def call : (left : Nat) → (name : String) → List Term → Act Value
  | 0, _, _ => throw .endless
  | left + 1, name, arguments => do
    spend 1
    match (← get).routines.lookup name with
    | none => return .unset
    | some routine =>
      let slots ← slotsOf left routine.parameters arguments
      let frame := (← get).frame
      let arrays := (← get).heap.size
      modify fun machine ↦ { machine with frame := slots.toArray }
      let result : Value ← fun machine ↦
        match performAll left routine.body machine with
        | .ok () machine => .ok .unset machine
        | .error (.giveBack value) machine => .ok value machine
        | .error stop machine => .error stop machine
      modify fun machine ↦
        { machine with frame, heap := machine.heap.shrink arrays }
      return result

/-- What parameters stand for in a call. -/
def slotsOf : (left : Nat) → (parameters : List Bool) → List Term → Act (List Slot)
  | 0, _, _ => throw .endless
  | _ + 1, [], _ => return []
  | left + 1, _ :: parameters, [] => do
    return .value .unset :: (← slotsOf left parameters [])
  | left + 1, isArray :: parameters, argument :: arguments => do
    let slot ← match argument with
      | .named holder =>
        let machine ← get
        let isShared := isArray || match holder with
          | .global _ => false
          | .parameter index => machine.frame[index]? matches some (.shared _)
        if isShared then do pure (Slot.shared (← arrayPlace holder))
        else do pure (Slot.value (← named holder))
      | term => do pure (Slot.value (← eval left term))
    return slot :: (← slotsOf left parameters arguments)

/-- Carries out statements one after the other. -/
def performAll : (left : Nat) → List Statement → Act Unit
  | 0, _ => throw .endless
  | _ + 1, [] => return
  | left + 1, statement :: rest => do
    perform left statement
    performAll left rest

/-- Carries out a statement. -/
def perform : (left : Nat) → Statement → Act Unit
  | 0, _ => throw .endless
  | left + 1, statement => do
    match statement with
    | .nothing => return
    | .value term => let _ ← eval left term
    | .block body => performAll left body
    | .print arguments output =>
      let target ← targetOf left output
      if arguments.isEmpty then
        emit target ((← record) ++ (← get).textOf "ORS")
      else
        let values ← evalAll left arguments
        let target ← if target.isSome then pure target else targetOf left output
        let texts ← values.mapM shown
        let machine ← get
        emit target ((texts.intersperse (machine.textOf "OFS")).flatten ++ machine.textOf "ORS")
    | .printf arguments output =>
      let values ← evalAll left arguments
      let target ← targetOf left output
      emit target (← formatted "printf" (← text (values.headD .unset)) (values.drop 1))
    | .branch condition yes no =>
      if (← eval left condition).holds then perform left yes else perform left no
    | .loop condition step body => loop left condition step body
    | .repeated body condition => repeatedly left body condition
    | .each target array body =>
      let place ← arrayPlace array
      changeTable place Table.withTexts
      each left target body (← table place).subscripts
    | .nextRecord => throw .nextRecord
    | .nextFile => throw .nextFile
    | .finish status =>
      match status with
      | some status =>
        let status ← eval left status
        modify fun machine ↦
          { machine with status := (Value.truncated status.toNumber % 256).toNat }
      | none => pure ()
      throw .finished
    | .giveBack value =>
      match value with
      | some value => throw (.giveBack (← eval left value))
      | none => throw (.giveBack .unset)
    | .leave => throw .leave
    | .goOn => throw .goOn
    | .delete array subscripts =>
      let subscript ← subscript (← evalAll left subscripts)
      let place ← arrayPlace array
      changeTable place (·.erase subscript)
    | .clear array =>
      let place ← arrayPlace array
      changeTable place fun _ ↦ .empty

/-- Where output goes. -/
def targetOf : (left : Nat) → Option (OutputKind × Term) → Act (Option (OutputKind × Octets))
  | 0, _ => throw .endless
  | _ + 1, none => return none
  | left + 1, some (kind, term) => do
    return some (kind, ← text (← eval left term))

/-- Carries out one round of a loop, and tells whether there may be another one. -/
def round : (left : Nat) → Statement → Act Bool
  | 0, _ => throw .endless
  | left + 1, body => fun machine ↦
    match perform left body machine with
    | .ok () machine => .ok true machine
    | .error .goOn machine => .ok true machine
    | .error .leave machine => .ok false machine
    | .error stop machine => .error stop machine

/-- Goes round a loop as long as its condition holds. -/
def loop : (left : Nat) → (condition step : Option Term) → Statement → Act Unit
  | 0, _, _, _ => throw .endless
  | left + 1, condition, step, body => do
    spend 1
    let goesOn ← match condition with
      | some condition => do pure (← eval left condition).holds
      | none => pure true
    if goesOn then
      if ← round left body then
        match step with
        | some step => let _ ← eval left step
        | none => pure ()
        loop left condition step body

/-- Goes round a loop until its condition does not hold. -/
def repeatedly : (left : Nat) → Statement → (condition : Term) → Act Unit
  | 0, _, _ => throw .endless
  | left + 1, body, condition => do
    spend 1
    if ← round left body then
      if (← eval left condition).holds then repeatedly left body condition

/-- Goes round a loop for subscripts. -/
def each : (left : Nat) → (target : Term) → Statement → List Octets → Act Unit
  | 0, _, _, _ => throw .endless
  | _ + 1, _, _, [] => return
  | left + 1, target, body, subscript :: rest => do
    spend 1
    let spot ← spotOf left target
    spot.set (.text subscript)
    if ← round left body then each left target body rest

end

/-! ### Rules -/

/-- How deep terms, statements and rounds may lie in one another. -/
def depth : Nat := 6000000

/-- The rule with a number is one for the record at hand. -/
def applies (index : Nat) : Condition → Act Bool
  | .start | .finish => return false
  | .always => return true
  | .holds term => return (← eval depth term).holds
  | .range first last => do
    let isOpen := (← get).ranges.contains index
    let isInside ← if isOpen then pure true else do pure (← eval depth first).holds
    if isInside then
      let ends := (← eval depth last).holds
      modify fun machine ↦
        let others := machine.ranges.filter (· != index)
        { machine with ranges := if ends then others else index :: others }
    return isInside

/-- Does what a rule says. -/
def obey (rule : Rule) : Act Unit :=
  perform depth (match rule.action with
    | some body => .block body
    | none => .print [] none)

/-- Does what the rules say for the record at hand. -/
def obeyAll : List (Rule × Nat) → Act Unit
  | [] => return
  | (rule, index) :: rest => do
    if ← applies index rule.condition then obey rule
    obeyAll rest

/-- Goes through the records. -/
def records (rules : List (Rule × Nat)) : (left : Nat) → Act Unit
  | 0 => throw .endless
  | left + 1 => do
    match ← nextRecord? 100000 with
    | none => return
    | some record =>
      countRecord
      setRecord record
      let goesOn : Bool ← fun machine ↦
        match obeyAll rules machine with
        | .ok () machine => .ok true machine
        | .error .nextRecord machine => .ok true machine
        | .error .nextFile machine => .ok true { machine with supply := none }
        | .error stop machine => .error stop machine
      if goesOn then records rules left

/-- Goes through a part of the run that an `exit` ends; tells whether it did not. -/
def untilExit (body : Act Unit) : Act Bool := fun machine ↦
  match body machine with
  | .ok () machine => .ok true machine
  | .error .finished machine => .ok false machine
  | .error stop machine => .error stop machine

/-- Does the rules of a kind. -/
def obeyEach : List Rule → Act Unit
  | [] => return
  | rule :: rest => do
    obey rule
    obeyEach rest

/-- Runs a program. -/
def run (program : Program) : Act Unit := do
  modify fun machine ↦ { machine with routines := program.routines }
  let starting := program.rules.filter fun rule ↦ rule.condition matches .start
  let finishing := program.rules.filter fun rule ↦ rule.condition matches .finish
  let others := program.rules.zipIdx.filter fun (rule, _) ↦
    !(rule.condition matches .start) && !(rule.condition matches .finish)
  let goesOn ← untilExit (obeyEach starting)
  if goesOn && !(others.isEmpty && finishing.isEmpty) then
    let _ ← untilExit (records others depth)
  let _ ← untilExit (obeyEach finishing)
  closeAll

end Act

end Scaffold.Shell.Awk
