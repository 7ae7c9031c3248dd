import Scaffold.Shell.Editing.Script
import Scaffold.Shell.Utility.Basic

/-!
# Running scripts that edit lines

A line is held in the space that is worked on, and another one in the hold space. A run goes through
the lines in rounds; what it prints and writes to files comes out at the end (`Edited`). A run that
needs what a command prints stops there (`asked`), and is to be started again with the answer.
-/

set_option autoImplicit false

namespace Scaffold.Shell.Editing

open Text (Octets)

/-- A line, and whether it has an end. -/
structure Line where
  text : Octets
  hasEnd : Bool
  deriving Repr

/-- What was printed, the last part first, and whether its last line has no end yet. -/
structure Output where
  parts : List Octets
  isOpen : Bool

namespace Output

/-- Nothing was printed. -/
def empty : Output :=
  ⟨[], false⟩

/-- Prints a text as it is, after the end of the line before. -/
def put (output : Output) (mark : Char) (text : Octets) : Output :=
  ⟨text :: (if output.isOpen then [mark] :: output.parts else output.parts), false⟩

/-- Prints a line, with its end if it has one. -/
def putLine (output : Output) (mark : Char) (line : Line) : Output :=
  if line.hasEnd then output.put mark (line.text ++ [mark])
  else { output.put mark line.text with isOpen := true }

/-- All that was printed. -/
def text (output : Output) : Octets :=
  output.parts.reverse.flatten

end Output

/-- What a run needs to know beside its lines. -/
structure Setting where
  script : List Instruction
  isSilent : Bool
  file : Octets
  contents : Octets → Octets
  /-- The octet that ends a line. -/
  mark : Char
  /-- The length of the lines that show a space unambiguously. -/
  length : Nat
  /-- A line that lacks a next one to be joined with is not printed. -/
  isStrict : Bool
  /-- What is printed takes the place of a file, and the output is a file as others. -/
  isInPlace : Bool

/-- What a run works on. -/
structure Desk where
  space : Line
  hold : Line
  pending : List Line
  line : Nat
  printed : Output
  /-- What is printed at the end of the round, the last part first. -/
  queue : List Octets
  hasChanged : Bool
  /-- The ranges that are open, by the numbers of their instructions, with the line that ends them,
  if it is known. -/
  ranges : List (Nat × Option Nat)
  /-- The ranges that may not open again. -/
  closed : List Nat
  used : Option Sought
  /-- What is written to files. -/
  written : List (Octets × Output)
  /-- The files that are read line by line, with what is left of them. -/
  opened : List (Octets × Octets)
  /-- What commands printed that have not been asked for yet. -/
  answers : List Octets
  /-- The script said to stop. -/
  hasQuit : Bool

/-- How the instructions for a line end. -/
inductive End
  | plain
  | deleted
  | restarted
  | quit (prints : Bool) (status : Nat)
  | endless
  deriving DecidableEq, Repr

/-- What keeps a run from going on: a command whose output it needs, or no expression to use. -/
inductive Halt
  | asked (command : Octets)
  | noExpression

/-- A part of a run. -/
abbrev Edit := ExceptT Halt (StateM Desk)

namespace Desk

/-- Prints the space. -/
def printSpace (desk : Desk) (mark : Char) : Desk :=
  { desk with printed := desk.printed.putLine mark desk.space }

/-- Prints a text as it is. -/
def print (desk : Desk) (mark : Char) (text : Octets) : Desk :=
  { desk with printed := desk.printed.put mark text }

/-- Prints what waits for the end of the round. -/
def flush (desk : Desk) (mark : Char) : Desk :=
  { desk.queue.reverse.foldl (·.print mark) desk with queue := [] }

/-- Takes the next line into the space. -/
def next? (desk : Desk) : Option Desk :=
  match desk.pending with
  | [] => none
  | line :: pending => some { desk with space := line, pending, line := desk.line + 1 }

/-- Writes a line to a file. -/
def write (desk : Desk) (setting : Setting) (path : Octets) (line : Line) : Desk :=
  let mark := setting.mark
  if path = "/dev/stdout".toList ∧ !setting.isInPlace then
    { desk with printed := desk.printed.putLine mark line }
  else
    let before := (desk.written.lookup path).getD .empty
    { desk with
      written := (path, before.putLine mark line) :: desk.written.filter (·.1 != path) }

end Desk

/-- The text that is searched for, which is the one used last if none is given. -/
def usedSought (given : Option Sought) : Edit Sought := do
  match given with
  | some sought =>
    modify fun desk ↦ { desk with used := some sought }
    return sought
  | none =>
    match (← get).used with
    | some sought => return sought
    | none => throw .noExpression

/-- The address selects the line at hand. -/
def isAt (address : Address) : Edit Bool := do
  let desk ← get
  match address with
  | .number line => return desk.line == line
  | .last => return desk.pending.isEmpty
  | .step first gap => return first ≤ desk.line && (desk.line - first) % gap == 0
  | .text given => return (← usedSought given).isIn desk.space.text

/-- The line that ends a range which opens at a line, if that is known. -/
def stopOf (line : Nat) : RangeEnd → Option Nat
  | .address (.number stop) => some stop
  | .address _ => none
  | .plus count => some (line + count)
  | .multiple count => some (if count = 0 then line else (line + count - 1) / count * count)

/-- Closes a range; one that begins at a numbered line does not open again. -/
def closeRange (index : Nat) (first : Address) : Edit Unit :=
  modify fun desk ↦
    { desk with
      ranges := desk.ranges.filter (·.1 != index)
      closed := if first matches .number _ then index :: desk.closed else desk.closed }

/-- Opens a range at the line at hand, unless it ends there. -/
def openRange (index : Nat) (first : Address) (last : RangeEnd) : Edit Unit := do
  let line := (← get).line
  let stop := stopOf line last
  let ends ←
    match stop, last with
    | some stop, _ => pure (decide (stop ≤ line))
    | none, .address .last => isAt .last
    | none, _ => pure false
  if ends then closeRange index first
  else modify fun desk ↦ { desk with ranges := (index, stop) :: desk.ranges }

/-- The line at hand lies in a range. A range that begins at a numbered line opens at a later one if
that line was passed over. -/
def isInRange (index : Nat) (first : Address) (last : RangeEnd) : Edit Bool := do
  let desk ← get
  let line := desk.line
  match desk.ranges.lookup index with
  | some (some stop) =>
    if line ≥ stop then closeRange index first
    return line ≤ stop || !(last matches .address _)
  | some none =>
    if let .address address := last then
      if ← isAt address then closeRange index first
    return true
  | none =>
    match first with
    | .number start =>
      if start = 0 ∨ line < start ∨ desk.closed.contains index then return false
      openRange index first last
      match last with
      | .address (.number stop) => return line ≤ stop || line == start
      | _ => return true
    | first =>
      if ← isAt first then
        openRange index first last
        return true
      else return false

/-- The instruction applies to the line at hand. -/
def isSelected (instruction : Instruction) : Edit Bool := do
  let { first, last, isOpposite } := instruction.selection
  let holds ←
    match first, last with
    | none, _ => pure true
    | some address, none => isAt address
    | some address, some last => isInRange instruction.number address last
  return holds != isOpposite

/-! ### Substitutions -/

/-- What a replacement is for a match. The case for a first letter that finds nothing to change in
an empty group counts for what follows. -/
def replaced (found : Match) : (waiting : Option Bool) → List Segment → Octets
  | _, [] => []
  | waiting, segment :: rest =>
    let own := segment.letters
    let letters := { own with first := own.first <|> waiting }
    let group : Octets :=
      match segment.group with
      | some 0 => found.text
      | some number => (found.groups.lookup number).getD []
      | none => []
    let after : LetterCase := if segment.text.isEmpty then letters else ⟨letters.all, none⟩
    let waiting := if segment.group.isSome && group.isEmpty && own.first.isSome then after.first
      else none
    letters.apply segment.text ++ after.apply group ++ replaced found waiting rest

/-- A text from a place on with matches replaced, and whether there were any; `count` of them came
before, and none may be empty at the end of the one before, `stop`. The text comes in parts, the
last one first. -/
def substituted (sought : Sought) (change : Substitution) :
    (left : Nat) → (count : Nat) → (stop : Option Nat) → (done : List Octets) →
    (hasChanged : Bool) → Place → List Octets × Bool
  | 0, _, _, done, hasChanged, place => (place.rest :: done, hasChanged)
  | left + 1, count, stop, done, hasChanged, place =>
    match sought.matchFrom place with
    | none => (place.rest :: done, hasChanged)
    | some found =>
      let done := place.upTo found.start :: done
      let isEmpty := found.start.index = found.finish.index
      let step := fun (count : Nat) (stop : Option Nat) (done : List Octets)
          (hasChanged : Bool) ↦
        if isEmpty then
          match found.finish.next? with
          | some next =>
            substituted sought change left count stop (found.finish.rest.take 1 :: done) hasChanged
              next
          | none => (done, hasChanged)
        else substituted sought change left count stop done hasChanged found.finish
      if isEmpty && stop == some found.start.index then step count stop done hasChanged
      else
        let count := count + 1
        let finish := some found.finish.index
        if count < change.which then step count finish (found.text :: done) hasChanged
        else
          let done := replaced found none change.replacement :: done
          if change.isGlobal then step count finish done true
          else (found.finish.rest :: done, true)

/-- What a command prints. -/
def outputOf (command : Octets) : Edit Octets := do
  let desk ← get
  match desk.answers with
  | [] => throw (.asked command)
  | printed :: answers =>
    set { desk with answers }
    return printed

/-- A text without the mark at its end. -/
def withoutMark (mark : Char) (text : Octets) : Octets :=
  if text.getLast? = some mark then text.dropLast else text

/-- Puts another text into the space. -/
def setSpace (text : Octets) : Edit Unit :=
  modify fun desk ↦ { desk with space := { desk.space with text } }

/-- Carries out a substitution. -/
def substitute (setting : Setting) (change : Substitution) : Edit Unit := do
  let sought ← usedSought change.sought
  let desk ← get
  let place := Place.start desk.space.text
  let (parts, hasChanged) :=
    substituted sought change (desk.space.text.length + 2) 0 none [] false place
  if hasChanged then
    setSpace parts.reverse.flatten
    modify fun desk ↦ { desk with hasChanged := true }
    if change.evaluates then
      let printed ← outputOf (← get).space.text
      setSpace (withoutMark setting.mark printed)
    if change.prints then modify (·.printSpace setting.mark)
    if let some path := change.target then
      modify fun desk ↦ desk.write setting path desk.space

/-! ### Showing a text -/

/-- An octet in a form that shows what it is. -/
def shown (c : Char) : Octets :=
  let known := [('\\', "\\\\"), ('\x07', "\\a"), ('\x08', "\\b"), ('\t', "\\t"), ('\n', "\\n"),
    ('\x0b', "\\v"), ('\x0c', "\\f"), ('\r', "\\r")]
  match known.lookup c with
  | some text => text.toList
  | none =>
    if 32 ≤ c.toNat && c.toNat < 127 then [c]
    else
      let digits := Number.digits 8 c.toNat
      '\\' :: List.replicate (3 - digits.length) '0' ++ digits

/-- A text with everything visible, in lines of a limited length unless that is zero. -/
def unambiguous (length : Nat) (mark : Char) (text : Octets) : Octets :=
  let (parts, _) := text.foldl (fun (state : List Octets × Nat) c ↦
    let part := shown c
    let (parts, width) := state
    if length > 0 && width + part.length + 1 > length then
      (part :: ['\\', '\n'] :: parts, part.length)
    else (part :: parts, width + part.length)) ([], 0)
  parts.reverse.flatten ++ ['$', mark]

/-! ### Instructions -/

/-- The instructions after the block that was entered. -/
def afterBlock : (blocks : Nat) → List Instruction → List Instruction
  | _, [] => []
  | blocks, instruction :: rest =>
    match instruction.action with
    | .enter => afterBlock (blocks + 1) rest
    | .leave => if blocks = 0 then rest else afterBlock (blocks - 1) rest
    | _ => afterBlock blocks rest

/-- The instructions after a label; none after the end of the script. -/
def afterLabel (name : Octets) : List Instruction → List Instruction
  | [] => []
  | instruction :: rest =>
    match instruction.action with
    | .label other => if other = name then rest else afterLabel name rest
    | _ => afterLabel name rest

/-- Goes on to the next line for `n` or `N`; tells how the instructions end if there is none. -/
def advance (setting : Setting) (joins : Bool) : Edit (Option End) := do
  let desk ← get
  match desk.pending with
  | [] => return some (.quit (!(joins && setting.isStrict)) 0)
  | line :: pending =>
    if !joins && !setting.isSilent then modify (·.printSpace setting.mark)
    modify (·.flush setting.mark)
    modify fun desk ↦
      { desk with
        space :=
          if joins then ⟨desk.space.text ++ setting.mark :: line.text, line.hasEnd⟩ else line
        pending, line := desk.line + 1, hasChanged := false }
    return none

/-- Carries out an instruction of one letter, and tells whether that ends the instructions. -/
def carryOut (setting : Setting) (letter : Char) : Edit (Option End) := do
  let desk ← get
  let mark := setting.mark
  let first := desk.space.text.takeWhile (· != mark)
  match letter with
  | 'd' => return some .deleted
  | 'D' =>
    if first.length < desk.space.text.length then
      setSpace (desk.space.text.drop (first.length + 1))
      return some .restarted
    else return some .deleted
  | 'n' => advance setting false
  | 'N' => advance setting true
  | 'p' =>
    set (desk.printSpace mark)
    return none
  | 'P' =>
    set (desk.print mark (first ++ [mark]))
    return none
  | '=' =>
    set (desk.print mark (Number.digits 10 desk.line ++ [mark]))
    return none
  | 'F' =>
    set (desk.print mark (setting.file ++ [mark]))
    return none
  | _ =>
    let { space, hold, .. } := desk
    set <|
      match letter with
      | 'g' => { desk with space := hold }
      | 'G' => { desk with space := ⟨space.text ++ mark :: hold.text, hold.hasEnd⟩ }
      | 'h' => { desk with hold := space }
      | 'H' => { desk with hold := ⟨hold.text ++ mark :: space.text, space.hasEnd⟩ }
      | 'x' => { desk with space := hold, hold := space }
      | 'z' => { desk with space := { space with text := [] } }
      | _ => desk
    return none

/-- The next line of a file that is read line by line, with its end. -/
def nextLineOf (setting : Setting) (path : Octets) : Edit Octets := do
  let desk ← get
  let left := (desk.opened.lookup path).getD (setting.contents path)
  let text := left.takeWhile (· != setting.mark)
  let line := left.take (text.length + 1)
  set { desk with
    opened := (path, left.drop line.length) :: desk.opened.filter (·.1 != path) }
  return line

/-- Carries out an instruction that only changes what is worked on. -/
def apply (setting : Setting) (instruction : Instruction) : Edit Unit := do
  let mark := setting.mark
  match instruction.action with
  | .substitute change => substitute setting change
  | .translate table =>
    setSpace ((← get).space.text.map fun c ↦ (table.lookup c).getD c)
  | .append text => modify fun desk ↦ { desk with queue := text :: desk.queue }
  | .insert text => modify (·.print mark text)
  | .read path =>
    let text := setting.contents path
    if !text.isEmpty then modify fun desk ↦ { desk with queue := text :: desk.queue }
  | .readLine path =>
    let line ← nextLineOf setting path
    if !line.isEmpty then modify fun desk ↦ { desk with queue := line :: desk.queue }
  | .write path => modify fun desk ↦ desk.write setting path desk.space
  | .writeFirst path =>
    modify fun desk ↦
      desk.write setting path ⟨desk.space.text.takeWhile (· != mark), true⟩
  | .list length =>
    modify fun desk ↦
      desk.print mark (unambiguous (length.getD setting.length) mark desk.space.text)
  | .execute [] =>
    let printed ← outputOf (← get).space.text
    setSpace (withoutMark mark printed)
  | .execute command =>
    let printed ← outputOf command
    modify (·.print mark printed)
  | _ => pure ()

/-- Runs instructions on the line at hand, in so many steps. -/
def run (setting : Setting) : (left : Nat) → List Instruction → Edit End
  | 0, _ => return .endless
  | _ + 1, [] => return .plain
  | left + 1, instruction :: rest => do
    if !(← isSelected instruction) then
      match instruction.action with
      | .enter => run setting left (afterBlock 0 rest)
      | _ => run setting left rest
    else
      match instruction.action with
      | .jump letter name =>
        let desk ← get
        let jumps := letter == 'b' || desk.hasChanged == (letter == 't')
        if letter != 'b' then set { desk with hasChanged := false }
        if jumps then
          run setting left (if name.isEmpty then [] else afterLabel name setting.script)
        else run setting left rest
      | .change text =>
        let desk ← get
        let isInside := (desk.ranges.lookup instruction.number).isSome
        if (!isInside || instruction.selection.isOpposite) && !text.isEmpty then
          set (desk.print setting.mark text)
        return .deleted
      | .quit isSilent status => return .quit (!isSilent) status
      | .simple letter =>
        match ← carryOut setting letter with
        | some result => return result
        | none => run setting left rest
      | _ =>
        apply setting instruction
        run setting left rest

/-- The steps that the instructions for one line may take. -/
def stepLimit : Nat := 2000000

/-- Runs a script on all lines, in so many rounds; a round begins with the next line unless it is to
be restarted. Gives the status, and whether there is an end. -/
def rounds (setting : Setting) : (left : Nat) → (isRestart : Bool) → Edit (Nat × Bool)
  | 0, _ => return (0, false)
  | left + 1, isRestart => do
    let desk ← get
    let ready? := if isRestart then some desk else desk.next?
    match ready? with
    | none => return (0, true)
    | some ready =>
      set { ready with hasChanged := ready.hasChanged && isRestart }
      let finish : Edit Unit := modify (·.flush setting.mark)
      match ← run setting stepLimit setting.script with
      | .plain =>
        if !setting.isSilent then modify (·.printSpace setting.mark)
        finish
        rounds setting left false
      | .deleted =>
        finish
        rounds setting left false
      | .restarted =>
        finish
        rounds setting left true
      | .quit prints status =>
        if prints then
          if !setting.isSilent then modify (·.printSpace setting.mark)
          finish
        modify fun desk ↦ { desk with hasQuit := true }
        return (status, true)
      | .endless => return (0, false)

/-- What comes of editing texts: what is printed, what is written
to files, the status, whether there is an end, and what keeps the run from going on. -/
structure Edited where
  printed : Octets
  written : List (Octets × Octets)
  status : Nat
  hasEnd : Bool
  halt : Option Halt
  /-- What commands printed that was not asked for. -/
  answers : List Octets
  /-- The script said to stop, and what was not read then. -/
  hasQuit : Bool
  unread : Octets

/-- The lines of a text that a mark ends. -/
def linesOf (mark : Char) (text : Octets) : List Line :=
  let (lines, last) := partsOf (· == mark) text
  lines.map (⟨·, true⟩) ++ (if last.isEmpty then [] else [⟨last, false⟩])

/-- Edits texts as if they were one, where commands print what the answers say. -/
def edit (setting : Setting) (texts : List Octets) (answers : List Octets) : Edited :=
  let lines := texts.flatMap (linesOf setting.mark)
  let openAtStart := setting.script.filterMap fun instruction ↦
    match instruction.selection.first, instruction.selection.last with
    | some (.number 0), some _ => some (instruction.number, none)
    | _, _ => none
  let desk : Desk :=
    ⟨⟨[], true⟩, ⟨[], true⟩, lines, 0, .empty, [], false, openAtStart, [], none, [], [], answers,
      false⟩
  let bound := 4 * (texts.foldl (fun sum text ↦ sum + text.length) 0 + 4)
  let (result, desk) := (rounds setting bound false).run.run desk
  let written := desk.written.map fun (path, output) ↦ (path, output.text)
  let unread := desk.pending.flatMap fun line ↦
    line.text ++ (if line.hasEnd then [setting.mark] else [])
  let (status, hasEnd, halt) :=
    match result with
    | .ok (status, hasEnd) => (status, hasEnd, none)
    | .error halt => (1, true, some halt)
  ⟨desk.printed.text, written, status, hasEnd, halt, desk.answers, desk.hasQuit, unread⟩

end Scaffold.Shell.Editing
