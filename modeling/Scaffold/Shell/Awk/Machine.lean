import Scaffold.Shell.Awk.Expression
import Scaffold.Shell.Awk.Table
import Scaffold.Shell.Awk.Token
import Scaffold.Shell.Errand

/-!
# What programs for records work on

A running program (`Machine`) has the values of its names, its arrays, and the record at hand with
its fields. The fields are cut off the record when one of them is first asked for, and the record is
put together again when it is asked for after a field was changed.
-/

set_option autoImplicit false

namespace Scaffold.Shell.Awk

open Text (Octets)

/-- What lies between fields. -/
inductive Separator
  | blanks
  /-- Nothing: each octet is a field. -/
  | nothing
  | octet (c : Char)
  | pattern (sought : Sought)

/-- What ends a record. -/
inductive RecordMark
  | octet (c : Char)
  | emptyLines
  | pattern (sought : Sought)

/-- Where an array is kept: with the program, or with a function that is running. -/
inductive ArrayPlace
  | global (name : String)
  | own (index : Nat)

/-- What a parameter stands for. -/
inductive Slot
  | value (value : Value)
  | shared (place : ArrayPlace)

/-- A file or command that is written to, and what was written last, in parts with the last one
first. -/
structure Outlet where
  kind : OutputKind
  name : Octets
  parts : List Octets

/-- A file or command that is read: what is left, and the status of the command. -/
structure Inlet where
  name : Octets
  rest : Octets
  status : Option Nat

/-- A running program. -/
structure Machine where
  task : Task
  routines : List (String × Routine)
  globals : Std.HashMap String Value
  arrays : Std.HashMap String Table
  /-- The arrays of the functions that are running. -/
  heap : Array Table
  frame : Array Slot
  record : Octets
  fields : Array Value
  isSplit : Bool
  /-- A field was changed after the record was put together. -/
  isStale : Bool
  separator : Separator
  mark : RecordMark
  /-- The number of the operand that is read next. -/
  operand : Nat
  /-- What is left of the operand that is read. -/
  supply : Option Octets
  /-- The operand that is read is the input. -/
  readsInput : Bool
  /-- A file was among the operands. -/
  hasFiles : Bool
  /-- The input as far as it was not read. -/
  input : Octets
  hasReadInput : Bool
  inlets : List Inlet
  /-- What is written to, used last in front. -/
  outlets : List Outlet
  /-- What was printed, in parts with the last one first. -/
  printed : List Octets
  /-- What came out since the last answer, the last part first. -/
  written : List (Nat × Octets)
  tree : FileTree
  hasChanged : Bool
  answers : List Answer
  patterns : Std.HashMap Octets Sought
  /-- The ranges that are open, by the numbers of their rules. -/
  ranges : List Nat
  status : Nat
  seed : Value
  chance : UInt64
  /-- How many rounds of loops may follow, and octets of output. -/
  left : Nat

/-- Why statements are not carried on with. -/
inductive Stop
  | nextRecord
  | nextFile
  | leave
  | goOn
  | giveBack (value : Value)
  | finished
  | ordered (order : Order)
  /-- Something went wrong as the program ran. -/
  | fault (text : Octets)
  /-- Something cannot be read or written. -/
  | refused (text : Octets)
  | endless

/-- A part of the run of a program. -/
abbrev Act := EStateM Stop Machine

namespace Machine

/-- The machine before a program is run for a task, with the answers to its orders. -/
def start (task : Task) (answers : List Answer) : Machine where
  task := task
  routines := []
  globals := Std.HashMap.ofList [("FS", .text [' ']), ("OFS", .text [' ']), ("RS", .text ['\n']),
    ("ORS", .text ['\n']), ("SUBSEP", .text ['\x1c']), ("CONVFMT", .text "%.6g".toList),
    ("OFMT", .text "%.6g".toList), ("RSTART", .number 0.0), ("RLENGTH", .number (-1.0)),
    ("NR", .number 0.0), ("FNR", .number 0.0), ("FILENAME", .unset)]
  arrays := {}
  heap := #[]
  frame := #[]
  record := []
  fields := #[]
  isSplit := true
  isStale := false
  separator := .blanks
  mark := .octet '\n'
  operand := 1
  supply := none
  readsInput := false
  hasFiles := false
  input := task.input
  hasReadInput := false
  inlets := []
  outlets := []
  printed := []
  written := []
  tree := task.tree
  hasChanged := false
  answers := answers
  patterns := {}
  ranges := []
  status := 0
  seed := .number (Float.ofInt (task.now / 1000000))
  chance := task.now.toNat.toUInt64
  left := 5000000

/-- The form of numbers that are not whole. -/
def form (machine : Machine) (name : String) : Octets :=
  match machine.globals.getD name .unset with
  | .text octets | .read octets => octets
  | _ => "%.6g".toList

/-- The text of a global name. -/
def textOf (machine : Machine) (name : String) : Octets :=
  (machine.globals.getD name .unset).toText (machine.form "CONVFMT")

end Machine

namespace Act

/-- Uses up some of what is left. -/
def spend (count : Nat) : Act Unit := fun machine ↦
  if machine.left < count then .error .endless machine
  else .ok () { machine with left := machine.left - count }

/-- The text of a value. -/
def text (value : Value) : Act Octets := do
  match value with
  | .text octets | .read octets => return octets
  | value => return value.toText ((← get).form "CONVFMT")

/-- Stops with a message about the run. -/
def fail {α : Type} (message : Octets) : Act α :=
  throw (.fault message)

/-- What an expression asks to search for. -/
def sought (octets : Octets) : Act Sought := do
  match (← get).patterns.get? octets with
  | some sought => return sought
  | none =>
    match Pattern.sought octets with
    | .ok sought =>
      modify fun machine ↦ { machine with patterns := machine.patterns.insert octets sought }
      return sought
    | .error reason =>
      fail ("regular expression compile failed (".toList ++ reason.toList ++ ")\n".toList ++ octets)

/-! ### Fields -/

/-- The parts of a text between matches that are not empty; `start` is where the part at hand
begins. -/
def parts (sought : Sought) : (left : Nat) → (start place : Place) → List Octets
  | 0, start, _ => [start.rest]
  | left + 1, start, place =>
    match sought.matchFrom place with
    | none => [start.rest]
    | some found =>
      if found.start.index = found.finish.index then
        match found.finish.next? with
        | some next => parts sought left start next
        | none => [start.rest]
      else start.upTo found.start :: parts sought left found.finish found.finish

/-- The fields of a text; ends of lines separate them as well if `cutsLines`. -/
def cut (separator : Separator) (cutsLines : Bool) (text : Octets) : List Octets :=
  if text.isEmpty then []
  else
    match separator with
    | .blanks =>
      let (words, last) := partsOf Value.isBlank text
      (words ++ [last]).filter fun word ↦ !word.isEmpty
    | .nothing => text.map fun c ↦ [c]
    | .octet mark =>
      let (words, last) := partsOf (fun c ↦ c == mark || (cutsLines && c == '\n')) text
      words ++ [last]
    | .pattern sought =>
      let pieces := fun (text : Octets) ↦
        if text.isEmpty then [[]]
        else parts sought (text.length + 1) (.start text) (.start text)
      if cutsLines then
        let (lines, last) := partsOf (· == '\n') text
        (lines ++ [last]).flatMap pieces
      else pieces text

/-- The separator that a text names. -/
def separatorOf (octets : Octets) : Act Separator := do
  match octets with
  | [] => return .nothing
  | [c] => return if c = ' ' then .blanks else .octet c
  | octets => return .pattern (← sought octets)

/-- Cuts the record into its fields. -/
def split : Act Unit := do
  let machine ← get
  if !machine.isSplit then
    let cutsLines := machine.mark matches .emptyLines
    let fields := (cut machine.separator cutsLines machine.record).map Value.read
    set { machine with fields := fields.toArray, isSplit := true }

/-- The record. -/
def record : Act Octets := do
  let machine ← get
  if machine.isStale then
    let form := machine.form "CONVFMT"
    let record := ((machine.fields.toList.map fun field ↦ field.toText form).intersperse
      (machine.textOf "OFS")).flatten
    set { machine with record, isStale := false }
    return record
  else return machine.record

/-- Takes a text as the record. -/
def setRecord (record : Octets) : Act Unit :=
  modify fun machine ↦ { machine with record, fields := #[], isSplit := false, isStale := false }

/-- The number of a field that a value names. -/
def fieldIndex (value : Value) : Act Nat := do
  let number := value.toNumber
  if number ≤ -1.0 then
    fail ("negative field index $".toList ++ Number.text (Value.truncated number))
  return number.toUInt64.toNat

/-- The value of a field. -/
def field (index : Nat) : Act Value := do
  if index = 0 then return .read (← record)
  else
    split
    return (← get).fields.getD (index - 1) (.text [])

/-- The most fields of a record. -/
def fieldLimit : Nat := 4194304

/-- The fields in another number. -/
def resized (fields : Array Value) (count : Nat) : Array Value :=
  if count ≤ fields.size then fields.extract 0 count
  else fields ++ Array.replicate (count - fields.size) (.text [])

/-- Sets a field. -/
def setField (index : Nat) (value : Value) : Act Unit := do
  if index = 0 then setRecord (← text value)
  else if index > fieldLimit then throw .endless
  else
    split
    modify fun machine ↦
      let fields := if machine.fields.size < index then resized machine.fields index
        else machine.fields
      { machine with fields := fields.setIfInBounds (index - 1) value, isStale := true }

/-! ### Names -/

/-- The value of a global name. -/
def global (name : String) : Act Value := do
  if name = "NF" then
    split
    return .ofNat (← get).fields.size
  else return (← get).globals.getD name .unset

/-- Sets a global name. -/
def setGlobal (name : String) (value : Value) : Act Unit := do
  if name = "NF" then
    split
    let count := value.toNumber
    if count < 0.0 then fail "negative value assigned to NF".toList
    if count.toUInt64.toNat > fieldLimit then throw .endless
    modify fun machine ↦
      { machine with fields := resized machine.fields count.toUInt64.toNat, isStale := true }
  else
    if name = "FS" then
      split
      let separator ← separatorOf (← text value)
      modify fun machine ↦ { machine with separator }
    else if name = "RS" then
      let mark ← match ← text value with
        | [] => pure RecordMark.emptyLines
        | [c] => pure (.octet c)
        | octets => do pure (.pattern (← sought octets))
      modify fun machine ↦ { machine with mark }
    modify fun machine ↦ { machine with globals := machine.globals.insert name value }

/-- The value of a name. -/
def named : Holder → Act Value
  | .global name => global name
  | .parameter index => do
    match (← get).frame[index]? with
    | some (.value value) => return value
    | _ => return .unset

/-- Sets a name. -/
def setNamed (holder : Holder) (value : Value) : Act Unit :=
  match holder with
  | .global name => setGlobal name value
  | .parameter index =>
    modify fun machine ↦
      { machine with frame := machine.frame.setIfInBounds index (.value value) }

/-! ### Arrays -/

/-- Where the array of a name is kept. A parameter without a value gets an array of its own. -/
def arrayPlace : Holder → Act ArrayPlace
  | .global name => return .global name
  | .parameter index => do
    let machine ← get
    match machine.frame[index]? with
    | some (.shared place) => return place
    | _ =>
      let place := ArrayPlace.own machine.heap.size
      set { machine with
        heap := machine.heap.push .empty
        frame := machine.frame.setIfInBounds index (.shared place) }
      return place

/-- An array. -/
def table (place : ArrayPlace) : Act Table := do
  let machine ← get
  match place with
  | .global name => return machine.arrays.getD name .empty
  | .own index => return machine.heap.getD index .empty

/-- Changes an array. -/
def changeTable (place : ArrayPlace) (edit : Table → Table) : Act Unit :=
  modify fun machine ↦
    match place with
    | .global name =>
      { machine with
        arrays :=
          if machine.arrays.contains name then machine.arrays.modify name edit
          else machine.arrays.insert name (edit .empty) }
    | .own index => { machine with heap := machine.heap.modify index edit }

/-- The subscript that values name. -/
def subscript : List Value → Act Subscript
  | [.number value] => do
    if value.floor == value && value.abs < 9007199254740993.0 then
      return .whole (Value.truncated value)
    else return .text (← text (.number value))
  | [value] => return .text (← text value)
  | values => do
    let texts ← values.mapM text
    return .text ((texts.intersperse ((← get).textOf "SUBSEP")).flatten)

/-- The value at a subscript, which is added if it is missing. -/
def element (place : ArrayPlace) (subscript : Subscript) : Act Value := do
  changeTable place (·.touched true subscript)
  return (← table place).get subscript

/-- Sets the value at a subscript, which is added if it is missing. -/
def setElement (place : ArrayPlace) (subscript : Subscript) (value : Value) : Act Unit :=
  changeTable place fun table ↦
    (if table.has subscript then table else table.touched true subscript).set subscript value

end Act

end Scaffold.Shell.Awk
